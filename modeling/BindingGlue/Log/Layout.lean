import BindingGlue.Log.Level
import BindingGlue.Text.Padded
import BindingGlue.Text.Word

/-!
# Layouts

A layout says how a record is written: text in which `%(name)s` and its like stand for the parts of
the record and `%%` for a percent sign. Between the name and the letter a minus sign asks for the
left margin, a number for a least width, and a number after a dot for a greatest one. A layout in
which nothing that looks like a directive occurs is no layout. What looks like one need not be one:
then the layout is accepted, but it writes no record.
The parts of a record are its level, its logger and its message. A log has more of them, such as the
time and the place that a record comes from; they are left out, and a layout that asks for one
writes no record here. Left out as well is the account of a fault that follows a record.
-/

namespace BindingGlue.Log

open Text

/-- What is logged. -/
structure Record where
  /-- The level. -/
  level : Level
  /-- The name of the logger that it is written to. -/
  logger : String
  /-- The message. -/
  message : String
  /-- An account of a fault follows the message on lines of its own, which a log does without. -/
  isTraced : Bool := false
  deriving DecidableEq

/-- The characters that may stand between the name and the width of a directive. -/
def directiveFlags : List Char :=
  "#0+ -".toList

/-! ### What looks like a directive -/

/-- The letters that may end what looks like a directive, in either case; a dotted and a dotless `i`
and a long `s` are among them. -/
def directiveLetters : List Char :=
  "diouxefgcrsa%DIOUXEFGCRSA\u0130\u0131\u017f".toList

/-- What follows a number at the beginning of a text. A star may stand for a number. -/
def dropNumber? : List Char → Option (List Char)
  | [] => none
  | c :: cs =>
    if c = '*' then some cs
    else if isDecimal c then some (cs.dropWhile isDecimal)
    else none

/-- What follows at the beginning of a text after what looks like a directive. -/
def dropDirective? (s : List Char) : Option (List Char) := do
  let s ← "%(".toList.isPrefixOf? s
  guard ((s.head?).any isWord)
  let s ← [')'].isPrefixOf? (s.dropWhile isWord)
  let s := s.dropWhile directiveFlags.contains
  let s := (dropNumber? s).getD s
  let s := match s with
    | '.' :: rest => (dropNumber? rest).getD s
    | _ => s
  match s with
  | [] => none
  | letter :: rest =>
    guard (directiveLetters.contains letter)
    return rest

/-- Whether something that looks like a directive occurs in the text. -/
def hasDirective : List Char → Bool
  | [] => false
  | c :: cs => (dropDirective? (c :: cs)).isSome || hasDirective cs

/-! ### Directives -/

/-- A directive of a layout. -/
structure Directive where
  /-- The name of a part of the record. -/
  part : String
  /-- Whether the part stands at the left margin of its width. -/
  isLeft : Bool
  /-- The least width. -/
  width : Nat
  /-- The greatest width, if there is one. -/
  limit? : Option Nat
  /-- The letter at the end. -/
  letter : Char
  deriving DecidableEq

/-- The name that ends at the next closing parenthesis which no parenthesis inside it has opened,
and what follows. The first two arguments are the number of parentheses that are open inside the
name and its characters so far, the last one first. -/
def takeName? : Nat → List Char → List Char → Option (List Char × List Char)
  | _, _, [] => none
  | 0, seen, ')' :: cs => some (seen.reverse, cs)
  | inside + 1, seen, ')' :: cs => takeName? inside (')' :: seen) cs
  | inside, seen, '(' :: cs => takeName? (inside + 1) ('(' :: seen) cs
  | inside, seen, c :: cs => takeName? inside (c :: seen) cs

/-- The number that leading ASCII digits write, zero if there are none, and what follows. -/
def takeNumber (s : List Char) : Nat × List Char :=
  ((s.takeWhile Char.isDigit).foldl (fun n d ↦ 10 * n + (d.toNat - '0'.toNat)) 0,
    s.dropWhile Char.isDigit)

/-- The limit after a leading dot, if there is one, and what follows. -/
def takeLimit : List Char → Option Nat × List Char
  | '.' :: rest =>
    let (limit, rest) := takeNumber rest
    (some limit, rest)
  | s => (none, s)

/-- What follows a letter that says how wide a number is, which means nothing. -/
def dropSize : List Char → List Char
  | 'h' :: rest | 'l' :: rest | 'L' :: rest => rest
  | s => s

/-- The greatest limit of a directive. -/
def maxLimit : Nat := Nat.pow 2 31 - 1

/-- The directive after a percent sign, and what follows it. -/
def takeDirective? (s : List Char) : Option (Directive × List Char) := do
  let s ← ['('].isPrefixOf? s
  let (part, s) ← takeName? 0 [] s
  let isLeft := (s.takeWhile directiveFlags.contains).contains '-'
  let (width, s) := takeNumber (s.dropWhile directiveFlags.contains)
  let (limit?, s) := takeLimit s
  guard (width ≤ maxWidth && limit?.all (· ≤ maxLimit))
  match dropSize s with
  | [] => none
  | letter :: rest => return ({ part := String.ofList part, isLeft, width, limit?, letter }, rest)

namespace Directive

/-- The part of a record that a directive asks for. -/
def part? (directive : Directive) (record : Record) : Option String :=
  match directive.part with
  | "levelname" => some record.level.shown
  | "name" => some record.logger
  | "message" => some record.message
  | _ => none

/-- The text no longer than the directive allows. -/
def limited (directive : Directive) (s : List Char) : List Char :=
  match directive.limit? with
  | some limit => s.take limit
  | none => s

/-- What a directive writes of a part, by its letter: the text, the quoted text, or the one
character that the text is. -/
def shown? (directive : Directive) (part : String) : Option (List Char) :=
  match directive.letter with
  | 's' => some (directive.limited part.toList)
  | 'r' => some (directive.limited (quoted part).toList)
  | 'a' => some (directive.limited (quotedPlainly part).toList)
  | 'c' => if part.length = 1 then some part.toList else none
  | _ => none

/-- What a directive writes of a record. -/
def write? (directive : Directive) (record : Record) : Option (List Char) := do
  let shown ← directive.shown? (← directive.part? record)
  return padded (if directive.isLeft then .left else .right) ' ' directive.width shown

end Directive

/-- The text of a record in a layout, if the record has every part that the layout asks for. The
first argument is the number of characters that the last directive still covers. -/
def fillLayout? (record : Record) : Nat → List Char → Option (List Char)
  | _, [] => some []
  | covered + 1, _ :: cs => fillLayout? record covered cs
  | 0, '%' :: '%' :: cs => do return '%' :: (← fillLayout? record 0 cs)
  | 0, '%' :: cs => do
    let (directive, rest) ← takeDirective? cs
    let written ← directive.write? record
    return written ++ (← fillLayout? record (cs.length - rest.length) cs)
  | 0, c :: cs => do return c :: (← fillLayout? record 0 cs)

/-- A layout. -/
structure Layout where
  /-- The text of the layout. -/
  text : String
  /-- Something that looks like a directive occurs in it. -/
  directive_occurs : hasDirective text.toList

namespace Layout

/-- The layout that is used when no other is chosen: the level and the message. -/
def standardText : String := "%(levelname)s: %(message)s"

/-- Reads a layout; the empty text stands for the standard one. A text that is no layout is given
back as an error. -/
def read (text : String) : Except String Layout :=
  let text := if text.isEmpty then standardText else text
  if h : hasDirective text.toList then .ok { text, directive_occurs := h } else .error text

/-- The end of the line of a record. A line feed always follows, except that a record with an
account of a fault ends its line only where its text has not done so. -/
def lineEnd (record : Record) (line : List Char) : List Char :=
  if record.isTraced && line.getLast? = some '\n' then [] else ['\n']

/-- The line of a record; a record that lacks a part of the layout has none. -/
def line? (layout : Layout) (record : Record) : Option String :=
  (fillLayout? record 0 layout.text.toList).map fun line ↦
    String.ofList (line ++ lineEnd record line)

end Layout

end BindingGlue.Log
