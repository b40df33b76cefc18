import BindingGlue.Text.Printable

/-!
# Quoted texts

A quoted text stands between single quotes, or between double quotes if it holds a single quote and
no double one. The quote, the backslash and every character that is not printable are escaped, so a
quoted text is one line of printable characters. In a plainly quoted text these are ASCII characters
alone.
-/

namespace BindingGlue.Text

/-- The hexadecimal digits of a number, with zeros in front up to the width. -/
def hexDigits (width n : Nat) : List Char :=
  let digits := Nat.toDigits 16 n
  List.replicate (width - digits.length) '0' ++ digits

/-- The quotation mark that a text is written between. -/
def quoteMark (s : List Char) : Char :=
  if s.contains '\x27' && !s.contains '\x22' then '\x22' else '\x27'

/-- A character as it is written inside a quoted text that keeps some characters as they are. -/
def escaped (keeps : Char → Bool) (mark c : Char) : List Char :=
  if c = mark || c = '\\' then ['\\', c]
  else if c = '\t' then ['\\', 't']
  else if c = '\n' then ['\\', 'n']
  else if c = '\r' then ['\\', 'r']
  else if keeps c then [c]
  else if c.toNat ≤ 0xFF then '\\' :: 'x' :: hexDigits 2 c.toNat
  else if c.toNat ≤ 0xFFFF then '\\' :: 'u' :: hexDigits 4 c.toNat
  else '\\' :: 'U' :: hexDigits 8 c.toNat

/-- The text between quotation marks, with some characters kept as they are. -/
def quotedKeeping (keeps : Char → Bool) (s : String) : String :=
  let mark := quoteMark s.toList
  String.ofList (mark :: s.toList.flatMap (escaped keeps mark) ++ [mark])

/-- The text between quotation marks. -/
def quoted (s : String) : String :=
  quotedKeeping isPrintable s

/-- The text between quotation marks in ASCII characters. -/
def quotedPlainly (s : String) : String :=
  quotedKeeping (fun c ↦ isPrintable c && c.toNat < 0x80) s

end BindingGlue.Text
