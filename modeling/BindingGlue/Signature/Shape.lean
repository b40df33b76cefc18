import BindingGlue.Text.Blank
import BindingGlue.Text.Word
import BindingGlue.Types.Spelling

/-!
# The shape of signature lines

A signature line reads

    // TODO: [virtual] [const] Type name(Type name, ...)

with blanks of any kind and number between its parts, none needed where a reference or pointer mark
stands, and anything after the closing parenthesis. `readLine?` takes a line apart and
`readArgument?` takes one argument apart, without knowing any type. A word such as `virtual` or
`const` is first tried as a qualifier and, where no signature follows it, taken as the type.
-/

namespace BindingGlue.Signature

open Text BindingGlue.Types

/-- What follows the word, if the text starts with it. -/
def skipWord? (word : String) (s : List Char) : Option (List Char) :=
  word.toList.isPrefixOf? s

/-- What follows the word and the blanks after it, of which there has to be one. -/
def skipQualifier? (word : String) (s : List Char) : Option (List Char) :=
  match skipWord? word s with
  | some (c :: rest) => if isBlank c then some (trimLeft rest) else none
  | _ => none

/-- The characters that continue the name of a type. -/
def isTypeChar (c : Char) : Bool :=
  isWord c || c == ':'

/-- The characters that may stand between the angle brackets of a type. -/
def isElementChar (c : Char) : Bool :=
  c != '<' && c != '>' && c != '(' && c != ')'

/-- A leading list of template arguments, with its brackets, and what follows it. Without a closing
bracket nothing is taken. -/
def takeTemplateArguments (s : List Char) : List Char × List Char :=
  match s with
  | '<' :: inner =>
    match inner.dropWhile isElementChar with
    | '>' :: rest => ('<' :: inner.takeWhile isElementChar ++ ['>'], rest)
    | _ => ([], s)
  | _ => ([], s)

/-- A leading type and what follows it: a qualified name, with a list of template arguments if one
follows at once. -/
def takeType? : List Char → Option (List Char × List Char)
  | [] => none
  | c :: cs =>
    if isNameStart c then
      let (arguments, rest) := takeTemplateArguments (cs.dropWhile isTypeChar)
      some (c :: cs.takeWhile isTypeChar ++ arguments, rest)
    else none

/-- A leading method name and what follows it. -/
def takeName? : List Char → Option (List Char × List Char)
  | [] => none
  | c :: cs => if isNameStart c then some (c :: cs.takeWhile isWord, cs.dropWhile isWord) else none

/-- What follows the separator of a type and a method name: one mark with any blanks around it, or
at least one blank. -/
def skipSeparator? (s : List Char) : Option (List Char) :=
  match trimLeft s with
  | [] => none
  | c :: rest =>
    if isMark c then some (trimLeft rest)
    else match s with
      | [] => none
      | b :: _ => if isBlank b then some (c :: rest) else none

/-- The parts of a signature line. -/
structure LineParts where
  /-- Whether `virtual` stands in front. -/
  isVirtual : Bool
  /-- The spelling of the result type. -/
  resultType : String
  /-- The name of the method. -/
  name : String
  /-- What stands between the parentheses. -/
  arguments : String
  deriving DecidableEq

/-- The characters that may stand between the parentheses. -/
def isArgumentChar (c : Char) : Bool :=
  c != '(' && c != ')'

/-- Reads the line from the result type on. -/
def readDeclaration? (isVirtual : Bool) (s : List Char) : Option LineParts := do
  let (resultType, s) ← takeType? s
  let s ← skipSeparator? s
  let (name, s) ← takeName? s
  let s ← skipWord? "(" (trimLeft s)
  let _ ← skipWord? ")" (s.dropWhile isArgumentChar)
  return {
    isVirtual
    resultType := String.ofList resultType
    name := String.ofList name
    arguments := String.ofList (s.takeWhile isArgumentChar) }

/-- Reads the line from a possible `const` on. -/
def readConst? (isVirtual : Bool) (s : List Char) : Option LineParts :=
  ((skipQualifier? "const" s).bind (readDeclaration? isVirtual)).or (readDeclaration? isVirtual s)

/-- Reads the line from a possible `virtual` on. -/
def readVirtual? (s : List Char) : Option LineParts :=
  ((skipQualifier? "virtual" s).bind (readConst? true)).or (readConst? false s)

/-- Reads a trimmed line. -/
def readLine? (s : List Char) : Option LineParts := do
  let s ← skipWord? "//" s
  let s ← skipWord? "TODO:" (trimLeft s)
  readVirtual? (trimLeft s)

/-- What follows the marks of an argument: any blanks, a `const` among them perhaps, then the marks
and any blanks. -/
def skipMarks? (s : List Char) : Option (List Char) :=
  let marks? (s : List Char) : Option (List Char) :=
    match s with
    | [] => none
    | c :: rest => if isMark c then some (trimLeft (rest.dropWhile isMark)) else none
  let s := trimLeft s
  ((skipWord? "const" s).bind fun rest ↦ marks? (trimLeft rest)).or (marks? s)

/-- Reads an argument from its type on; the name is what is left, and may be empty after marks. -/
def readTyped? (s : List Char) : Option (String × String) := do
  let (type, s) ← takeType? s
  let named? (rest : List Char) : Option (String × String) :=
    if rest.all isWord then some (String.ofList type, String.ofList rest) else none
  ((skipMarks? s).bind named?).or (match s with
    | [] => none
    | b :: rest => if isBlank b then named? (trimLeft rest) else none)

/-- Reads a trimmed argument as the spelling of its type and its name. -/
def readArgument? (s : List Char) : Option (String × String) :=
  ((skipQualifier? "const" s).bind readTyped?).or (readTyped? s)

end BindingGlue.Signature
