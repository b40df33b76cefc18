import BindingGlue.Signature.Shape

/-!
# The grammar of signature lines

What `Signature.readLine?` and `Signature.readArgument?` accept, said without them: a line or an
argument fits its parts if it can be cut into pieces of the right form, in the right order. Nothing
here says how the pieces are found, nor that there is only one way to cut.
-/

namespace BindingGlue.Signature

open Text BindingGlue.Types

/-- A run of blanks, possibly empty. -/
def IsBlanks (s : List Char) : Prop :=
  ∀ c ∈ s, isBlank c

/-- A word followed by at least one blank, or nothing at all. -/
def IsQualifier (word : String) (isThere : Bool) (s : List Char) : Prop :=
  if isThere then ∃ blanks, s = word.toList ++ blanks ∧ IsBlanks blanks ∧ blanks ≠ [] else s = []

/-- The name of a method. -/
def IsName (s : List Char) : Prop :=
  ∃ c cs, s = c :: cs ∧ isNameStart c ∧ ∀ d ∈ cs, isWord d

/-- A list of template arguments between its brackets. -/
def IsTemplateArguments (s : List Char) : Prop :=
  ∃ inner, s = '<' :: inner ++ ['>'] ∧ ∀ c ∈ inner, isElementChar c

/-- A type: a qualified name, with a list of template arguments or without one. -/
def IsType (s : List Char) : Prop :=
  ∃ c cs arguments, s = c :: cs ++ arguments ∧ isNameStart c ∧ (∀ d ∈ cs, isTypeChar d) ∧
    (arguments = [] ∨ IsTemplateArguments arguments)

/-- What separates a result type from the name of a method. -/
def IsSeparator (s : List Char) : Prop :=
  (IsBlanks s ∧ s ≠ []) ∨
    ∃ left mark right, s = left ++ mark :: right ∧ IsBlanks left ∧ isMark mark ∧ IsBlanks right

/-- A line that reads as the parts, with anything after its closing parenthesis. -/
def LineParts.Fits (parts : LineParts) (line : List Char) : Prop :=
  ∃ blanks₁ blanks₂ marked constant separator blanks₃ rest isConst,
    line = "//".toList ++ blanks₁ ++ "TODO:".toList ++ blanks₂ ++ marked ++ constant ++
      parts.resultType.toList ++ separator ++ parts.name.toList ++ blanks₃ ++ '(' ::
      parts.arguments.toList ++ ')' :: rest ∧
    IsBlanks blanks₁ ∧ IsBlanks blanks₂ ∧ IsBlanks blanks₃ ∧
    IsQualifier "virtual" parts.isVirtual marked ∧ IsQualifier "const" isConst constant ∧
    IsType parts.resultType.toList ∧ IsSeparator separator ∧ IsName parts.name.toList ∧
    ∀ c ∈ parts.arguments.toList, isArgumentChar c

/-- What stands between the type of an argument and its name where there are marks. -/
def IsMarks (s : List Char) : Prop :=
  ∃ left constant marks right, s = left ++ constant ++ marks ++ right ∧ IsBlanks left ∧
    (constant = [] ∨ ∃ blanks, constant = "const".toList ++ blanks ∧ IsBlanks blanks) ∧
    (∀ c ∈ marks, isMark c) ∧ marks ≠ [] ∧ IsBlanks right

/-- An argument that reads as the type and the name. -/
def ArgumentFits (type name argument : List Char) : Prop :=
  ∃ constant isConst separator,
    argument = constant ++ type ++ separator ++ name ∧
    IsQualifier "const" isConst constant ∧ IsType type ∧
    ((IsBlanks separator ∧ separator ≠ []) ∨ IsMarks separator) ∧ ∀ c ∈ name, isWord c

end BindingGlue.Signature
