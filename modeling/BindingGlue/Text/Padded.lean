/-!
# Padded texts

A text is padded to a width with copies of one character, at its right, at its left or at both
sides. A text that is as long as the width already stays as it is, so no character is ever lost.

Padding is bounded by the memory that there is for a text, and how much that is differs from one run
to the next. Here the bound is a fixed one (`maxWidth`).
-/

namespace BindingGlue.Text

/-- Where a text stands in its width. -/
inductive Anchor where
  | left
  | right
  | center
  deriving DecidableEq

/-- The greatest width for which there is taken to be memory. -/
def maxWidth : Nat := Nat.pow 2 24

/-- The text with copies of a character up to the width. -/
def padded (anchor : Anchor) (fill : Char) (width : Nat) (s : List Char) : List Char :=
  let spare := width - s.length
  match anchor with
  | .left => s ++ List.replicate spare fill
  | .right => List.replicate spare fill ++ s
  | .center => List.replicate (spare / 2) fill ++ s ++ List.replicate (spare - spare / 2) fill

end BindingGlue.Text
