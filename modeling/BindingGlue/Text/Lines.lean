import BindingGlue.Text.Blank

/-!
# Lines

A line ends in a line feed, a carriage return, or the two in that order. `unixNewlines` writes each
of the three as a line feed, and `contentLines` reads a text as its lines that are not blank, with
the blanks at their ends removed.
-/

namespace BindingGlue.Text

/-- The text with a line feed for every end of line. -/
def unixNewlines : List Char → List Char
  | [] => []
  | '\r' :: '\n' :: cs => '\n' :: unixNewlines cs
  | c :: cs => (if c = '\r' then '\n' else c) :: unixNewlines cs

/-- The lines that are not blank, trimmed, in order. -/
def contentLines (text : String) : List String :=
  ((((unixNewlines text.toList).splitOn '\n').map trim).filter (!·.isEmpty)).map String.ofList

end BindingGlue.Text
