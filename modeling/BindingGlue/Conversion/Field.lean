import BindingGlue.Conversion.Style
import BindingGlue.Text.Members

/-!
# Fields of conversions

A field stands between braces: the name of a value, then steps to an attribute of it or to an item
of it, then a letter that says how it is shown, then a style. Only the name has to be there.

The values are texts. The attributes of a text are its kind and its methods, which say nothing;
what these have for attributes in their turn, and the attributes of a text whose names stand between
underscores, are left out.
-/

namespace BindingGlue.Conversion

/-- A value that a field leads to. -/
inductive Value where
  | text (text : String)
  /-- The kind of all texts. -/
  | kind
  /-- A method of a text. -/
  | method (name : String)

/-- What stands between the braces of a field. -/
structure Field where
  /-- The name and the steps. -/
  path : List Char
  /-- How the value is shown. -/
  showing? : Option Char
  /-- The style. -/
  style : List Char

/-! ### Reading a field -/

/-- The path of a field, the character that ends it and what follows. The first argument says
whether the text stands inside an index, the second one holds the characters so far, the last one
first. -/
def takePath : Bool → List Char → List Char → Except Fault (List Char × Char × List Char)
  | _, _, [] => .error .unclosedField
  | true, seen, c :: cs => takePath (c != ']') (c :: seen) cs
  | false, seen, c :: cs =>
    if c = '\x7b' then .error .nestedField
    else if c = '\x7d' || c = ':' || c = '!' then .ok (seen.reverse, c, cs)
    else takePath (c = '[') (c :: seen) cs

/-- The style of a field and what follows its closing brace. The first two arguments are the number
of braces that are open inside the style and its characters so far, the last one first. -/
def takeStyle : Nat → List Char → List Char → Except Fault (List Char × List Char)
  | _, _, [] => .error .unclosedStyle
  | 0, seen, '\x7d' :: cs => .ok (seen.reverse, cs)
  | inside + 1, seen, '\x7d' :: cs => takeStyle inside ('\x7d' :: seen) cs
  | inside, seen, '\x7b' :: cs => takeStyle (inside + 1) ('\x7b' :: seen) cs
  | inside, seen, c :: cs => takeStyle inside (c :: seen) cs

/-- The field after an opening brace, and what follows its closing one. -/
def takeField (s : List Char) : Except Fault (Field × List Char) := do
  match ← takePath false [] s with
  | (path, ':', rest) =>
    let (style, rest) ← takeStyle 0 [] rest
    return ({ path, showing? := none, style }, rest)
  | (path, '!', rest) =>
    match rest with
    | [] => throw .unclosedShowing
    | [_] => throw .unclosedStyle
    | letter :: '\x7d' :: rest => return ({ path, showing? := some letter, style := [] }, rest)
    | letter :: ':' :: rest =>
      let (style, rest) ← takeStyle 0 [] rest
      return ({ path, showing? := some letter, style }, rest)
    | _ => throw .longShowing
  | (path, _, rest) => return ({ path, showing? := none, style := [] }, rest)

/-! ### The value of a field -/

/-- The kind of a value. -/
def Value.kindName : Value → String
  | text _ => "str"
  | kind => "type"
  | method _ => "builtin_function_or_method"

/-- The owner of an attribute, as messages name it. -/
def owner : Value → String
  | .kind => "type object 'str'"
  | value => "'" ++ value.kindName ++ "' object"

/-- The owner of items, as messages name it. -/
def itemsOwner : Value → String
  | .kind => "type 'str'"
  | value => "'" ++ value.kindName ++ "' object"

/-- The attribute of a value. -/
def attribute? : Value → String → Option Value
  | .text _, name =>
    if name = "__class__" then some .kind
    else if Text.methodNames.contains name then some (.method name)
    else none
  | _, _ => none

/-- The attribute of a value that a step asks for. -/
def member (value : Value) (name : List Char) : Except Fault Value :=
  if name.isEmpty then .error .emptyStep
  else match attribute? value (String.ofList name) with
    | some found => .ok found
    | none => .error (.noAttribute (owner value) (String.ofList name))

/-- The item of a value at an index. -/
def item (value : Value) (index : List Char) : Except Fault Value := do
  let number? ← wholeNumber? index
  if index.isEmpty then throw .emptyStep
  match value, number? with
  | .text s, some n =>
    match s.toList[n]? with
    | some c => return .text (String.ofList [c])
    | none => throw .beyondText
  | .text _, none => throw .textIndex
  | value, _ => throw (.notIndexable (itemsOwner value))

/-- Where the reading of the steps of a path stands. -/
inductive Step where
  /-- Before a step. -/
  | between
  /-- In the name of an attribute, with its characters so far, the last one first. -/
  | member (seen : List Char)
  /-- In an index, with its characters so far, the last one first. -/
  | index (seen : List Char)

/-- The value that steps lead to from a value. -/
def follow (value : Value) : Step → List Char → Except Fault Value
  | .between, [] => .ok value
  | .between, c :: cs =>
    if c = '.' then follow value (.member []) cs
    else if c = '[' then follow value (.index []) cs
    else .error .afterIndex
  | .member seen, [] => member value seen.reverse
  | .member seen, c :: cs =>
    if c = '.' then do follow (← member value seen.reverse) (.member []) cs
    else if c = '[' then do follow (← member value seen.reverse) (.index []) cs
    else follow value (.member (c :: seen)) cs
  | .index _, [] => .error .unclosedIndex
  | .index seen, c :: cs =>
    if c = ']' then do follow (← item value seen.reverse) .between cs
    else follow value (.index (c :: seen)) cs

/-- The value that a path leads to. The empty name is that of the first position. -/
def find (values : List (String × String)) (path : List Char) : Except Fault Value := do
  let ends (c : Char) : Bool := c = '.' || c = '['
  let name := path.takeWhile (!ends ·)
  match ← wholeNumber? name with
  | some index => throw (.positional index)
  | none =>
    if name.isEmpty then throw (.positional 0)
    match values.lookup (String.ofList name) with
    | some value => follow (.text value) .between (path.dropWhile (!ends ·))
    | none => throw (.unknownField (String.ofList name))

/-- A value inside quotation marks, if it is a text that `quote` puts there. -/
def quotedBy (quote : String → String) : Value → String
  | .text s => quote s
  | .kind => "<class 'str'>"
  | .method name => "<built-in method " ++ name ++ " of str object>"

/-- A value as it is shown, before it gets a style. -/
def shown (value : Value) : Option Char → Except Fault Value
  | none => .ok value
  | some 's' => .ok (.text (quotedBy id value))
  | some 'r' => .ok (.text (quotedBy Text.quoted value))
  | some 'a' => .ok (.text (quotedBy Text.quotedPlainly value))
  | some letter => .error (.unknownShowing letter)

/-- A value in a style, which only a text can have. -/
def inStyle (value : Value) (style : List Char) : Except Fault (List Char) :=
  match value with
  | .text s => styled style s.toList
  | value =>
    if style.isEmpty then .ok (quotedBy id value).toList
    else .error (.unstyled value.kindName)

end BindingGlue.Conversion
