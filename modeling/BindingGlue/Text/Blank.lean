import BindingGlue.Text.Ranges

/-!
# Blank characters

Every line format here treats the same characters as blanks: spaces of any width, tabs, the ends of
lines and pages, and the four information separators. This module holds the class, the removal of
blanks at the ends of a text, and the split of a text into words.
-/

namespace BindingGlue.Text

/-- The blank code points. -/
def blankRanges : Ranges :=
  [(0x09, 0x0D), (0x1C, 0x20), (0x85, 0x85), (0xA0, 0xA0), (0x1680, 0x1680), (0x2000, 0x200A),
   (0x2028, 0x2029), (0x202F, 0x202F), (0x205F, 0x205F), (0x3000, 0x3000)]

/-- The blank characters. -/
def isBlank (c : Char) : Bool :=
  blankRanges.covers c

/-- The text without its leading blanks. -/
def trimLeft (s : List Char) : List Char :=
  s.dropWhile isBlank

/-- The text without the longest ending whose characters all satisfy `p`. -/
def dropEndWhile (p : Char → Bool) (s : List Char) : List Char :=
  (s.reverse.dropWhile p).reverse

/-- The text without its trailing blanks. -/
def trimRight (s : List Char) : List Char :=
  dropEndWhile isBlank s

/-- The text without blanks at either end. -/
def trim (s : List Char) : List Char :=
  trimRight (trimLeft s)

/-- The maximal runs of characters that are not blank. -/
def words (s : List Char) : List (List Char) :=
  (s.splitOnP isBlank).filter (!·.isEmpty)

/-- The words of the text with one space between neighbours. -/
def singleSpaced (s : List Char) : List Char :=
  [' '].intercalate (words s)

end BindingGlue.Text
