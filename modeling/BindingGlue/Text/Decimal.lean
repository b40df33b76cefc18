/-!
# Decimal numbers

Whole numbers as their decimal digits, after a minus sign if they are negative. There is a greatest
number of digits up to which a number that is given from outside can be written at all.
-/

namespace BindingGlue.Text

/-- The decimal digits of a number. -/
def decimal : Int → String
  | .ofNat n => n.repr
  | .negSucc n => "-" ++ (n + 1).repr

/-- The greatest number of digits with which a number can be written. -/
def maxDigits : Nat := 4300

/-- Whether a number has no more digits than can be written. -/
def isShort (number : Int) : Bool :=
  (Nat.toDigits 10 number.natAbs).length ≤ maxDigits

end BindingGlue.Text
