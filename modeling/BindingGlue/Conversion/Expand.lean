import BindingGlue.Conversion.Field

/-!
# Property conversions

A type says how a generic property value becomes a typed one with a conversion text: literal text in
which a field between braces stands for a value, and a doubled brace for the brace itself.
`Conversion.expand` fills the fields in from left to right and stops at the first fault.
-/

namespace BindingGlue.Conversion

/-- The text of a field, given how the fields of its style are filled in. -/
def Field.expand (field : Field) (fillStyle : List Char → Except Fault (List Char))
    (values : List (String × String)) : Except Fault (List Char) := do
  let value ← shown (← find values field.path) field.showing?
  let style ← if field.style.contains '\x7b' then fillStyle field.style else pure field.style
  inStyle value style

/-- Fills the fields of a text in. The argument before the text is the number of characters that the
last field still covers. -/
def fill (fillStyle : List Char → Except Fault (List Char)) (values : List (String × String)) :
    Nat → List Char → Except Fault (List Char)
  | _, [] => .ok []
  | covered + 1, _ :: cs => fill fillStyle values covered cs
  | 0, '\x7b' :: '\x7b' :: cs => do return '\x7b' :: (← fill fillStyle values 0 cs)
  | 0, '\x7d' :: '\x7d' :: cs => do return '\x7d' :: (← fill fillStyle values 0 cs)
  | 0, ['\x7b'] => .error .loneOpening
  | 0, '\x7b' :: cs => do
    let (field, rest) ← takeField cs
    let text ← field.expand fillStyle values
    return text ++ (← fill fillStyle values (cs.length - rest.length) cs)
  | 0, '\x7d' :: _ => .error .loneClosing
  | 0, c :: cs => do return c :: (← fill fillStyle values 0 cs)

/-- Fills the fields of a text in whose styles have fields inside each other no deeper than so. -/
def fillTo (values : List (String × String)) : Nat → List Char → Except Fault (List Char)
  | 0, _ => .error .deepStyle
  | depth + 1, s => fill (fillTo values depth) values 0 s

/-- Expands a conversion text for a generic value, a typed name and a constructor. -/
def expand (conversion value typed constructor : String) : Except Fault String := do
  let values := [("value", value), ("typed", typed), ("from_generic", constructor)]
  return String.ofList (← fillTo values 2 conversion.toList)

end BindingGlue.Conversion
