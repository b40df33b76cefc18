import BindingGlue.Text.Blank

/-!
# Spellings of types

A type is looked up by its bare name. `bareName` takes a spelling to that name: one leading `const`
goes, so do the reference and pointer marks at the end, and the words that are left stand one space
apart.
-/

namespace BindingGlue.Types

open Text

/-- The marks of references and pointers. -/
def isMark (c : Char) : Bool :=
  c == '&' || c == '*'

/-- The text without one leading `const` and its space. -/
def dropConst (s : List Char) : List Char :=
  match ['c', 'o', 'n', 's', 't', ' '].isPrefixOf? s with
  | some rest => trimLeft rest
  | none => s

/-- The text without the marks at its end and the blanks among them. -/
def dropMarks (s : List Char) : List Char :=
  dropEndWhile (fun c ↦ isMark c || isBlank c) s

/-- The name under which a spelling is looked up. -/
def bareName (spelling : String) : String :=
  String.ofList (singleSpaced (dropMarks (dropConst (trim spelling.toList))))

end BindingGlue.Types
