import BindingGlue.Conversion.Number
import BindingGlue.Text.Padded

/-!
# Styles of fields

The style of a field says how wide its text is, at which side the text stands, what fills the rest,
and how much of the text is written. Signs, groups of digits and the forms of numbers can be asked
for as well, but a text has none of them.
-/

namespace BindingGlue.Conversion

open Text

/-- Where a style puts a text. -/
inductive Placement where
  /-- At a side or in the middle. -/
  | at (anchor : Anchor)
  /-- With the filling between the sign and the digits. -/
  | inner

/-- The placement that a character asks for. -/
def placement? : Char → Option Placement
  | '<' => some (.at .left)
  | '>' => some (.at .right)
  | '^' => some (.at .center)
  | '=' => some .inner
  | _ => none

/-- The style of a field. -/
structure Style where
  /-- What fills the rest of the width. -/
  fill : Char
  /-- Where the text stands. -/
  placement : Placement
  /-- The sign that is asked for. -/
  sign? : Option Char
  /-- Whether zero without a sign is asked for. -/
  isUnsignedZero : Bool
  /-- Whether the alternate form of a number is asked for. -/
  isAlternate : Bool
  /-- The least width. -/
  width : Nat
  /-- The greatest width, if there is one. -/
  limit? : Option Nat
  /-- The form of the text. -/
  form : Char

/-- The filling and the placement at the beginning of a style, and what follows. -/
def takePlacement : List Char → Option Char × Option Placement × List Char
  | [] => (none, none, [])
  | [c] =>
    match placement? c with
    | some placement => (none, some placement, [])
    | none => (none, none, [c])
  | c :: d :: cs =>
    match placement? d, placement? c with
    | some placement, _ => (some c, some placement, cs)
    | none, some placement => (none, some placement, d :: cs)
    | none, none => (none, none, c :: d :: cs)

/-- The leading character if it is one of those, and what follows. -/
def takeOne (among : List Char) : List Char → Option Char × List Char
  | [] => (none, [])
  | c :: cs => if among.contains c then (some c, cs) else (none, c :: cs)

/-- The marks at the beginning of a text that part groups of digits, and what follows. -/
def takeGrouping (s : List Char) : Except Fault (Option Char × List Char) := do
  let (comma?, s) := takeOne [','] s
  let (low?, s) := takeOne ['_'] s
  if low?.isSome && (comma?.isSome || s.head? = some ',') then throw (.style .twoGroupings)
  return (comma?.or low?, s)

/-- The limit after a leading dot, if there is one, and what follows. -/
def takeLimit : List Char → Except Fault (Option Nat × List Char)
  | '.' :: s => do
    match ← takeNumber? s with
    | (none, _) => throw (.style .noLimit)
    | (some limit, s) => return (some limit, s)
  | s => .ok (none, s)

/-- Whether a mark that parts groups of digits goes with a form. -/
def groups (mark form : Char) : Bool :=
  "defgEG%F".toList.contains form || (mark = '_' && "boxX".toList.contains form)

/-- Reads the style of a text. -/
def Style.read (s : List Char) : Except Fault Style := do
  let (fill?, placement?, rest) := takePlacement s
  let (sign?, rest) := takeOne [' ', '+', '-'] rest
  let (unsignedZero?, rest) := takeOne ['z'] rest
  let (alternate?, rest) := takeOne ['#'] rest
  let (zero?, rest) := if fill?.isNone then takeOne ['0'] rest else (none, rest)
  let (width?, rest) ← takeNumber? rest
  let (grouping?, rest) ← takeGrouping rest
  let (limit?, rest) ← takeLimit rest
  let form ← match rest with
    | [] => pure 's'
    | [form] => pure form
    | _ => throw (.style (.unreadable (String.ofList s)))
  if let some mark := grouping? then
    if !groups mark form then throw (.style (.groupedForm mark form))
  return {
    fill := (fill?.or zero?).getD ' '
    placement := placement?.getD (.at .left)
    sign?
    isUnsignedZero := unsignedZero?.isSome
    isAlternate := alternate?.isSome
    width := width?.getD 0
    limit?
    form }

/-- A text in a style. -/
def Style.apply (style : Style) (s : List Char) : Except Fault (List Char) := do
  if style.form != 's' then throw (.style (.unknownForm style.form))
  match style.sign? with
  | some ' ' => throw (.style .space)
  | some _ => throw (.style .sign)
  | none => pure ()
  if style.isUnsignedZero then throw (.style .negativeZero)
  if style.isAlternate then throw (.style .alternate)
  match style.placement with
  | .inner => throw (.style .innerFill)
  | .at anchor =>
    if maxWidth < style.width then throw .greatWidth
    let s := match style.limit? with
      | some limit => s.take limit
      | none => s
    return padded anchor style.fill style.width s

/-- A text in the style that another one writes. The empty one leaves the text as it is. -/
def styled (style s : List Char) : Except Fault (List Char) := do
  if style.isEmpty then return s else (← Style.read style).apply s

end BindingGlue.Conversion
