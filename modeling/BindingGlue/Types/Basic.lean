import BindingGlue.Text.Blank

/-!
# Type entries

A type that signatures may use is described by one entry: its name, how native code and typed code
spell it, and how its values cross from one to the other. Arguments are taken apart by category and
results are handed back by packing, so the two classifications are independent.
-/

namespace BindingGlue

open Text

/-- What kind of value a type has; arguments are extracted by category. -/
inductive Category where
  | void
  | boolean
  | signedInteger
  | unsignedInteger
  | floatingPoint
  | string
  | enumeration
  | object
  deriving DecidableEq

/-- How a native result is handed back. -/
inductive Packing where
  /-- There is no result. -/
  | nothing
  | numeric
  | boolean
  | string
  /-- The result is copied into a wrapper of its own. -/
  | ownedObject
  /-- Each element is copied into a wrapper of its own. -/
  | objectList
  /-- The wrapper of a long-lived object is looked up in a cache. -/
  | passThroughObject
  deriving DecidableEq

/-- One type of the vocabulary. -/
structure TypeEntry where
  /-- The name that signatures use. -/
  name : String
  /-- The kind of value. -/
  category : Category
  /-- The spelling in native declarations. -/
  nativeSpelling : String
  /-- The spelling on the typed surface. -/
  typedName : String
  /-- How a result of the type is handed back. -/
  packing : Packing := .nothing
  /-- The native call takes `*value`. -/
  needsDereference : Bool := false
  /-- The typed layer passes the native handle of the value. -/
  needsNativeUnwrap : Bool := false
  /-- The accessor that reads a number. -/
  numberAccessor : Option String := none
  /-- The wrapper class of an object. -/
  wrapClass : Option String := none
  /-- The name of the element type of a list. -/
  element : Option String := none
  /-- The values are combinations of flags. -/
  bitFlags : Bool := false
  /-- The conversion applied to a generic property value; without one the type is no property. -/
  propertyGetter : Option String := none
  deriving DecidableEq

namespace TypeEntry

/-- Whether the type stands for the absence of a value. -/
def isVoid (entry : TypeEntry) : Bool :=
  entry.category == .void

/-- Whether values of the type can be passed: void and lists are results only. -/
def isPassable (entry : TypeEntry) : Bool :=
  !entry.isVoid && entry.packing != .objectList

/-- The native spelling without the pointer marks at its end. -/
def baseNative (entry : TypeEntry) : String :=
  String.ofList (trim (dropEndWhile (· == '*') entry.nativeSpelling.toList))

/-- The accessor as it is written; a missing one is written `None`. -/
def accessorText (entry : TypeEntry) : String :=
  entry.numberAccessor.getD "None"

/-- The wrapper class as it is written; a missing one is written `None`. -/
def wrapText (entry : TypeEntry) : String :=
  entry.wrapClass.getD "None"

end TypeEntry

end BindingGlue
