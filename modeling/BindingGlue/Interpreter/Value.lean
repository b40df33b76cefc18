import BindingGlue.Template.Plain
import BindingGlue.Text.Members

/-!
# Values of the interpreter

What a name can stand for while the interpreter fills a template in: the values that it was given,
truth values and tuples, nothing at all, a loop that is under way, a thing that is only ever shown,
and what stands for a missing value until it is put to use. A text is written as it is, and what
holds other values as these between brackets, with the texts inside it quoted.

Of the members that a value has by its kind only the kind itself and the parts of a number say
something; methods are there, and that is all.
-/

namespace BindingGlue.Interpreter

open Template (Fault)

/-- A value of a template that is being filled in. -/
inductive Value where
  | text (text : String)
  | number (number : Int)
  /-- A number with too many digits to be written. -/
  | longNumber
  | truth (holds : Bool)
  | list (items : List Value)
  | tuple (items : List Value)
  | object (fields : List (String × Value))
  /-- The absence of a value. -/
  | nothing
  /-- The loop at a depth, counted from the outermost one that is under way. -/
  | loop (depth : Nat)
  /-- A thing of a kind, and how it is shown. -/
  | thing (kindName shown : String)
  /-- What stands for a missing value: the fault of using it. -/
  | undefined (fault : Fault)

namespace Value

mutual

/-- A value that is given to a template. -/
def given : Template.Value → Value
  | .text s => text s
  | .number n => if Text.isShort n then number n else longNumber
  | .count n => number n
  | .list items => list (givenItems items)
  | .object fields => object (givenFields fields)

/-- The items of a list that is given. -/
def givenItems : List Template.Value → List Value
  | [] => []
  | item :: items => given item :: givenItems items

/-- The fields of an object that is given. -/
def givenFields : List (String × Template.Value) → List (String × Value)
  | [] => []
  | (name, value) :: fields => (name, given value) :: givenFields fields

end

mutual

/-- A value inside another one. The first argument says how a loop is shown. -/
def nested (loopText : Nat → String) : Value → Except Fault String
  | text s => .ok (Text.quoted s)
  | number n => .ok (Text.decimal n)
  | longNumber => .error .longNumber
  | truth holds => .ok (if holds then "True" else "False")
  | list items => do return "[" ++ ", ".intercalate (← nestedItems loopText items) ++ "]"
  | tuple [item] => do return "(" ++ (← nested loopText item) ++ ",)"
  | tuple items => do return "(" ++ ", ".intercalate (← nestedItems loopText items) ++ ")"
  | object fields => do
    return "\x7b" ++ ", ".intercalate (← nestedFields loopText fields) ++ "\x7d"
  | nothing => .ok "None"
  | loop depth => .ok (loopText depth)
  | thing _ shown => .ok shown
  | undefined _ => .ok "Undefined"

/-- The items of a list. -/
def nestedItems (loopText : Nat → String) : List Value → Except Fault (List String)
  | [] => .ok []
  | item :: items => do return (← nested loopText item) :: (← nestedItems loopText items)

/-- The fields of an object, each after its name. -/
def nestedFields (loopText : Nat → String) : List (String × Value) → Except Fault (List String)
  | [] => .ok []
  | (name, value) :: fields => do
    let first ← nested loopText value
    return (Text.quoted name ++ ": " ++ first) :: (← nestedFields loopText fields)

end

/-- A value as it is written in a template. -/
def written (loopText : Nat → String) : Value → Except Fault String
  | text s => .ok s
  | value => nested loopText value

/-- The kind of a value. -/
def kindName : Value → String
  | text _ => "str"
  | number _ | longNumber => "int"
  | truth _ => "bool"
  | list _ => "list"
  | tuple _ => "tuple"
  | object _ => "dict"
  | nothing => "NoneType"
  | loop _ => "jinja2.runtime.LoopContext"
  | thing kindName _ => kindName
  | undefined _ => "jinja2.runtime.StrictUndefined"

/-- The owner of a field, as messages name it. -/
def owner : Value → String
  | nothing => "None"
  | value => value.kindName ++ " object"

/-- Whether a condition on the value holds: what holds nothing, zero and what is not there are
false. A loop that is under way has an item. -/
def isTrue : Value → Bool
  | text s => !s.isEmpty
  | number n => n != 0
  | truth holds => holds
  | list items => !items.isEmpty
  | tuple items => !items.isEmpty
  | object fields => !fields.isEmpty
  | nothing | undefined _ => false
  | longNumber | loop _ | thing _ _ => true

/-! ### Members -/

/-- A kind of values as a value of its own. -/
def kind (name : String) : Value :=
  thing "type" ("<class '" ++ name ++ "'>")

/-- The names of the methods of a kind. -/
def methodNames : String → List String
  | "str" => Text.methodNames
  | "int" | "bool" =>
    ["as_integer_ratio", "bit_count", "bit_length", "conjugate", "from_bytes", "to_bytes"]
  | "list" =>
    ["append", "clear", "copy", "count", "extend", "index", "insert", "pop", "remove", "reverse",
     "sort"]
  | "tuple" => ["count", "index"]
  | "dict" => Template.reservedFields
  | "jinja2.runtime.LoopContext" => ["changed", "cycle"]
  | _ => []

/-- The method of a value. The first argument says how a loop is shown. -/
def method (loopText : Nat → String) : Value → String → Value
  | loop depth, name =>
    thing "method" ("<bound method LoopContext." ++ name ++ " of " ++ loopText depth ++ ">")
  | value, name =>
    thing "builtin_function_or_method"
      ("<built-in method " ++ name ++ " of " ++ value.kindName ++ " object>")

/-- The member that a value has by its kind. The first argument says how a loop is shown. -/
def member? (loopText : Nat → String) (value : Value) (name : String) : Option Value :=
  if name = "__class__" then some (kind value.kindName)
  else if (methodNames value.kindName).contains name then some (method loopText value name)
  else match value, name with
    | number _, "real" | number _, "numerator" => some value
    | longNumber, "real" | longNumber, "numerator" => some value
    | truth holds, "real" | truth holds, "numerator" => some (number (if holds then 1 else 0))
    | number _, "imag" | longNumber, "imag" | truth _, "imag" => some (number 0)
    | number _, "denominator" | longNumber, "denominator" | truth _, "denominator" =>
      some (number 1)
    | _, _ => none

/-- What a value holds under a name that is no member: the field of an object, and the name in
brackets after the kind of objects. -/
def item? : Value → String → Option Value
  | object fields, name => fields.lookup name
  | thing "type" "<class 'dict'>", name =>
    if Template.reservedFields.contains name then
      some (thing "method_descriptor" ("<method '" ++ name ++ "' of 'dict' objects>"))
    else some (thing "types.GenericAlias" ("dict[" ++ Text.quoted name ++ "]"))
  | _, _ => none

end Value

end BindingGlue.Interpreter
