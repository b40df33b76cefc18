import BindingGlue.Fragments.Basic
import BindingGlue.Text.Blank
import BindingGlue.Text.Word

/-!
# Headers

The first line of a batch names its class and says what is generated for it:

    // CLASS: Name      native glue and typed methods
    // PROP: Name       typed accessors of properties
-/

namespace BindingGlue

open Text

/-- What the first line of a batch says. -/
structure Header where
  /-- What is generated. -/
  mode : Mode
  /-- The name of the class. -/
  className : String
  deriving DecidableEq

namespace Header

/-- The mode that a keyword in front of a text selects, and what follows it. -/
def takeMode? (s : List Char) : Option (Mode × List Char) :=
  match "CLASS:".toList.isPrefixOf? s with
  | some rest => some (.operation, rest)
  | none => ("PROP:".toList.isPrefixOf? s).map fun rest ↦ (.property, rest)

/-- Reads a line as a header. -/
def read? (line : String) : Option Header := do
  let s ← "//".toList.isPrefixOf? line.toList
  let (mode, s) ← takeMode? (trimLeft s)
  let name := trim s
  match name with
  | [] => none
  | c :: cs =>
    if isNameStart c && cs.all isWord then some { mode, className := String.ofList name } else none

end Header

end BindingGlue
