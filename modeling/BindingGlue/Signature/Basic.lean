import BindingGlue.Types.Basic

/-!
# Signatures

A signature is a method as one annotated line describes it: its result type, its name and its
arguments in order. Every generated fragment lists the arguments in this order.
-/

namespace BindingGlue

/-- A named argument. -/
structure Argument where
  /-- The type of the argument. -/
  type : TypeEntry
  /-- The name of the argument. -/
  name : String
  deriving DecidableEq

/-- The signature of a method. -/
structure Signature where
  /-- The name of the method. -/
  name : String
  /-- The type of its result. -/
  resultType : TypeEntry
  /-- Its arguments, in order. -/
  arguments : List Argument := []
  /-- Whether it is marked as virtual. -/
  isVirtual : Bool := false
  /-- The line that it was read from, trimmed. -/
  line : String := ""
  deriving DecidableEq

namespace Signature

/-- The names of the arguments, in order. -/
def argumentNames (signature : Signature) : List String :=
  signature.arguments.map (·.name)

/-- Whether a call has a result. -/
def hasResult (signature : Signature) : Bool :=
  !signature.resultType.isVoid

/-- The arguments as they are listed, each with its type's name. -/
def argumentList (arguments : List Argument) : String :=
  ", ".intercalate (arguments.map fun argument ↦ argument.type.name ++ " " ++ argument.name)

/-- The signature in one phrase. -/
def summary (signature : Signature) : String :=
  signature.name ++ "(" ++ argumentList signature.arguments ++ ") -> " ++ signature.resultType.name

end Signature

end BindingGlue
