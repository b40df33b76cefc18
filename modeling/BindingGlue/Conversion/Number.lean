import BindingGlue.Conversion.Fault
import BindingGlue.Text.Word

/-!
# Numbers in conversions

A number in a conversion text is written in decimal digits of any script, and it has a greatest
value, which is checked digit by digit.
-/

namespace BindingGlue.Conversion

open Text

/-- The greatest number of a conversion. -/
def maxNumber : Nat := Nat.pow 2 63 - 1

/-- The number that leading decimal digits write after those that write `n`, and what follows. -/
def takeNumberFrom (n : Nat) : List Char → Except Fault (Nat × List Char)
  | [] => .ok (n, [])
  | c :: cs =>
    if isDecimal c then
      let n := 10 * n + decimalValue c
      if n ≤ maxNumber then takeNumberFrom n cs else .error .greatNumber
    else .ok (n, c :: cs)

/-- The number that leading decimal digits write, if there are any, and what follows. -/
def takeNumber? (s : List Char) : Except Fault (Option Nat × List Char) := do
  if (s.head?).any isDecimal then
    let (n, rest) ← takeNumberFrom 0 s
    return (some n, rest)
  else return (none, s)

/-- The number that a whole text writes. A text with anything but digits in it is no number, unless
its first digits write a number that is too great. -/
def wholeNumber? (s : List Char) : Except Fault (Option Nat) := do
  match ← takeNumber? s with
  | (some n, []) => return some n
  | _ => return none

end BindingGlue.Conversion
