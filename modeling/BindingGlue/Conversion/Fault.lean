import BindingGlue.Text.Quoted

/-!
# Faults of conversions

What can be wrong with a conversion text, in its shape, in a field that it names or in the style
that it asks for, and how each cause is worded.
-/

namespace BindingGlue.Conversion

open Text

/-- What is wrong with the style of a field. -/
inductive StyleFault where
  /-- A dot without a number. -/
  | noLimit
  /-- Two marks that part groups of digits. -/
  | twoGroupings
  /-- More than a style can hold. -/
  | unreadable (style : String)
  /-- A mark that parts groups of digits does not go with the form. -/
  | groupedForm (mark form : Char)
  /-- A text has no such form. -/
  | unknownForm (form : Char)
  /-- A sign, for a text. -/
  | sign
  /-- Room for a sign, for a text. -/
  | space
  /-- Zero without a sign, for a text. -/
  | negativeZero
  /-- The alternate form of a number, for a text. -/
  | alternate
  /-- Filling between a sign and digits, for a text. -/
  | innerFill
  deriving DecidableEq

/-- A character in a message, in quotes: as it is if it is visible ASCII, else by its code point. -/
def shownForm (c : Char) : String :=
  if 32 < c.toNat && c.toNat < 128 then "'" ++ c.toString ++ "'"
  else "'\\x" ++ String.ofList (Nat.toDigits 16 c.toNat) ++ "'"

/-- The message of a fault of a style. -/
def StyleFault.message : StyleFault → String
  | noLimit => "Format specifier missing precision"
  | twoGroupings => "Cannot specify both ',' and '_'."
  | unreadable style => "Invalid format specifier '" ++ style ++ "' for object of type 'str'"
  | groupedForm mark form =>
    "Cannot specify '" ++ mark.toString ++ "' with " ++ shownForm form ++ "."
  | unknownForm form => "Unknown format code " ++ shownForm form ++ " for object of type 'str'"
  | sign => "Sign not allowed in string format specifier"
  | space => "Space not allowed in string format specifier"
  | negativeZero => "Negative zero coercion (z) not allowed in string format specifier"
  | alternate => "Alternate form (#) not allowed in string format specifier"
  | innerFill => "'=' alignment not allowed in string format specifier"

/-- What is wrong with a conversion text. -/
inductive Fault where
  /-- No field has the name. -/
  | unknownField (name : String)
  /-- A field is given by a position, and there are no positional values. -/
  | positional (index : Nat)
  /-- A number is too great. -/
  | greatNumber
  /-- An opening brace ends the text. -/
  | loneOpening
  /-- A closing brace closes nothing. -/
  | loneClosing
  /-- The name of a field holds an opening brace. -/
  | nestedField
  /-- A field is not closed. -/
  | unclosedField
  /-- The text ends where a field says how it is shown. -/
  | unclosedShowing
  /-- More than one character says how a field is shown. -/
  | longShowing
  /-- A field is shown in no such way. -/
  | unknownShowing (letter : Char)
  /-- The style of a field is not closed. -/
  | unclosedStyle
  /-- The style of a field has a field whose style has a field. -/
  | deepStyle
  /-- An index is not closed. -/
  | unclosedIndex
  /-- Something other than a dot or a bracket follows an index. -/
  | afterIndex
  /-- A dot without a name or brackets without an index. -/
  | emptyStep
  /-- The owner has no attribute of that name. -/
  | noAttribute (owner name : String)
  /-- An index beyond the end of a text. -/
  | beyondText
  /-- An index of a text that is no number. -/
  | textIndex
  /-- The owner has no items. -/
  | notIndexable (owner : String)
  /-- A value of that kind takes no style. -/
  | unstyled (kind : String)
  /-- A width that is too great for any text. -/
  | greatWidth
  /-- The style is at fault. -/
  | style (fault : StyleFault)
  deriving DecidableEq

/-- The message of a fault. -/
def Fault.message : Fault → String
  | unknownField name => quoted name
  | positional index =>
    "Replacement index " ++ index.repr ++ " out of range for positional args tuple"
  | greatNumber => "Too many decimal digits in format string"
  | loneOpening => "Single '\x7b' encountered in format string"
  | loneClosing => "Single '\x7d' encountered in format string"
  | nestedField => "unexpected '\x7b' in field name"
  | unclosedField => "expected '\x7d' before end of string"
  | unclosedShowing => "end of string while looking for conversion specifier"
  | longShowing => "expected ':' after conversion specifier"
  | unknownShowing letter =>
    "Unknown conversion specifier " ++
      if 32 < letter.toNat && letter.toNat < 127 then letter.toString
      else "\\x" ++ String.ofList (Nat.toDigits 16 letter.toNat)
  | unclosedStyle => "unmatched '\x7b' in format spec"
  | deepStyle => "Max string recursion exceeded"
  | unclosedIndex => "Missing ']' in format string"
  | afterIndex => "Only '.' or '[' may follow ']' in format field specifier"
  | emptyStep => "Empty attribute in format string"
  | noAttribute owner name => owner ++ " has no attribute '" ++ name ++ "'"
  | beyondText => "string index out of range"
  | textIndex => "string indices must be integers, not 'str'"
  | notIndexable owner => owner ++ " is not subscriptable"
  | unstyled kind => "unsupported format string passed to " ++ kind ++ ".__format__"
  | greatWidth => ""
  | style fault => fault.message

end BindingGlue.Conversion
