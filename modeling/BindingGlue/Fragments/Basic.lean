/-!
# Fragments

What is generated for one signature: in operation mode four fragments, in property mode the typed
one alone.
-/

namespace BindingGlue

/-- What is generated for the methods of a batch. -/
inductive Mode where
  /-- Native glue and typed methods. -/
  | operation
  /-- Typed accessors of properties alone. -/
  | property
  deriving DecidableEq

/-- The name of a mode. -/
def Mode.name : Mode → String
  | operation => "operation"
  | property => "property"

/-- The fragments generated for one signature. -/
structure Fragments where
  /-- The typed method. -/
  typed : String
  /-- The native declaration. -/
  declaration : Option String := none
  /-- The entry in the table of exposed methods. -/
  registration : Option String := none
  /-- The native body. -/
  nativeBody : Option String := none
  deriving DecidableEq

end BindingGlue
