import BindingGlue.Template.Fault
import BindingGlue.Template.Value

/-!
# Plain templates

The plain part of the template language: lines of text with places of values, loops over the items
of a list, and passages that stand in every turn of a loop but the last. `Plain.text` is how such a
template is written, with every tag on a line of its own, and `Plain.fill` is what the documentation
of the language says of filling it in, with the settings that the program chooses:

* text is copied, and the place of a value is where the value is written, without any escaping;
* to use a name without a value, or a field that an object lacks, is a fault;
* a loop has a turn for each item of the list, in order, and knows which turn is the last;
* a tag takes the line feed behind it away, so a line with nothing but a tag leaves no trace;
* one line feed at the end of the whole text is taken away.

What a list or an object looks like in a place, a loop over anything but a list and a field of
anything but an object are not plain: there `Plain.fill` says nothing.
-/

namespace BindingGlue.Template

/-! ### The text of a template -/

/-- A name, or a field of what it stands for. -/
structure Path where
  /-- The name. -/
  name : String
  /-- The field. -/
  field? : Option String := none

/-- A line, without its line feed. -/
structure Line where
  /-- The places of values, each with the text in front of it. -/
  places : List (String × Path) := []
  /-- The text behind the last place. -/
  ending : String := ""

/-- A passage in the body of a loop. -/
inductive Passage where
  | line (line : Line)
  /-- Lines that are left out in the last turn. -/
  | unlessLast (lines : List Line)

/-- A block of a template. -/
inductive Block where
  | line (line : Line)
  /-- A loop over the items of a list, each of which has a name in its turn. -/
  | each (item source : String) (body : List Passage)

/-- A plain template. -/
abbrev Plain := List Block

/-- A path as it is written. -/
def Path.text (path : Path) : String :=
  path.name ++ (path.field?.map ("." ++ ·)).getD ""

/-- The place of a value as it is written. -/
def Path.place (path : Path) : String :=
  "\x7b\x7b " ++ path.text ++ " \x7d\x7d"

/-- A line as it is written. -/
def Line.source (line : Line) : String :=
  String.join (line.places.map fun (front, path) ↦ front ++ path.place) ++ line.ending ++ "\n"

/-- A tag as it is written, on a line of its own. -/
def tag (inside : String) : String :=
  "\x7b%" ++ inside ++ "%\x7d\n"

/-- A passage as it is written. -/
def Passage.source : Passage → String
  | line parts => Line.source parts
  | unlessLast lines =>
    tag " if not loop.last " ++ String.join (lines.map Line.source) ++ tag " endif "

/-- A block as it is written. -/
def Block.source : Block → String
  | line parts => Line.source parts
  | each item source body =>
    tag (" for " ++ item ++ " in " ++ source ++ " ") ++ String.join (body.map Passage.source) ++
      tag " endfor "

/-- The text of a template. -/
def Plain.text (template : Plain) : String :=
  String.join (template.map Block.source)

/-! ### Well-formed templates -/

/-- The names with a meaning of their own in the language. -/
def reservedNames : List String :=
  ["and", "caller", "cycler", "dict", "elif", "else", "false", "for", "if", "in", "is", "joiner",
   "lipsum", "loop", "namespace", "none", "not", "or", "range", "recursive", "self", "super",
   "true"]

/-- The names that every object has for something else than a field. -/
def reservedFields : List String :=
  ["clear", "copy", "fromkeys", "get", "items", "keys", "pop", "popitem", "setdefault", "update",
   "values"]

/-- Whether a text is one of lower-case letters, and is not reserved. -/
def isPlainName (reserved : List String) (name : String) : Bool :=
  !name.isEmpty && name.toList.all Char.isLower && !reserved.contains name

/-- Whether a path is made of plain names. -/
def Path.isPlain (path : Path) : Bool :=
  isPlainName reservedNames path.name && path.field?.all (isPlainName reservedFields)

/-- Whether a place, a tag or a remark opens in a text. -/
def opens : List Char → Bool
  | '\x7b' :: c :: cs => c = '\x7b' || c = '%' || c = '#' || opens (c :: cs)
  | _ :: cs => opens cs
  | [] => false

/-- Whether a text stands on one line and nothing opens in it. -/
def isPlainText (s : String) : Bool :=
  !s.toList.contains '\n' && !s.toList.contains '\r' && !opens s.toList

/-- Whether a line is plain. A brace in front of a place would be taken for one of its own. -/
def Line.isPlain (line : Line) : Bool :=
  line.places.all (fun (front, path) ↦ isPlainText (front ++ "\x7b") && path.isPlain) &&
    isPlainText line.ending

/-- Whether a passage is plain. -/
def Passage.isPlain : Passage → Bool
  | line parts => Line.isPlain parts
  | unlessLast lines => lines.all Line.isPlain

/-- Whether a block is plain. -/
def Block.isPlain : Block → Bool
  | line parts => Line.isPlain parts
  | each item source body =>
    isPlainName reservedNames item && isPlainName reservedNames source && body.all Passage.isPlain

/-- Whether a template is plain. -/
def Plain.isPlain (template : Plain) : Bool :=
  template.all Block.isPlain

/-! ### Filling in -/

/-- What the language says: an outcome, or nothing. -/
abbrev Meaning := ExceptT Fault Option

/-- Where the language says nothing. -/
def Meaning.silent {α : Type} : Meaning α :=
  ExceptT.mk none

/-- The texts of parts, joined. -/
def Meaning.joined : List (Meaning String) → Meaning String
  | [] => return ""
  | part :: parts => do return (← part) ++ (← joined parts)

/-- A value as it is written in its place. -/
def Value.written : Value → Meaning String
  | text s => return s
  | number n => if Text.isShort n then return Text.decimal n else throw .longNumber
  | count n => return n.repr
  | list _ | object _ => Meaning.silent

/-- The value of a path. -/
def Path.value (values : List (String × Value)) (path : Path) : Meaning Value :=
  match values.lookup path.name, path.field? with
  | none, _ => throw (.undefinedName path.name)
  | some value, none => return value
  | some (.object fields), some field =>
    match fields.lookup field with
    | some value => return value
    | none => throw (.undefinedField "dict object" field)
  | some _, some _ => Meaning.silent

/-- The place of a value with the text in front of it, filled in. -/
def fillPlace (values : List (String × Value)) (place : String × Path) : Meaning String := do
  return place.1 ++ (← (← place.2.value values).written)

/-- A line, filled in. -/
def Line.fill (values : List (String × Value)) (line : Line) : Meaning String := do
  return (← Meaning.joined (line.places.map (fillPlace values))) ++ line.ending

/-- A line and its line feed, filled in. -/
def Line.fillWhole (values : List (String × Value)) (line : Line) : Meaning String := do
  return (← line.fill values) ++ "\n"

/-- A passage in a turn of a loop, filled in. -/
def Passage.fill (values : List (String × Value)) (isLast : Bool) : Passage → Meaning String
  | line parts => Line.fillWhole values parts
  | unlessLast lines =>
    if isLast then return "" else Meaning.joined (lines.map (Line.fillWhole values))

/-- The turns of items in a loop, filled in. -/
def turns (values : List (String × Value)) (item : String) (body : List Passage) :
    List Value → Meaning String
  | [] => return ""
  | value :: rest => do
    let first ← Meaning.joined (body.map (Passage.fill ((item, value) :: values) rest.isEmpty))
    return first ++ (← turns values item body rest)

/-- A block, filled in. -/
def Block.fill (values : List (String × Value)) : Block → Meaning String
  | line parts => Line.fillWhole values parts
  | each item source body => do
    match ← Path.value values { name := source } with
    | .list items => turns values item body items
    | _ => Meaning.silent

/-- A template, filled in. -/
def Plain.fill (values : List (String × Value)) : Plain → Meaning String
  | [] => return ""
  | [.line parts] => Line.fill values parts
  | block :: blocks => do return (← block.fill values) ++ (← Plain.fill values blocks)

end BindingGlue.Template
