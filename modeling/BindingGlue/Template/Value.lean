/-!
# Template values

What a name of a template can stand for when a template is filled in: a text, a whole number, a list
or an object with named fields. The number of items of a list is a number that always can be
written, since no list is so long that it could not.
-/

namespace BindingGlue.Template

/-- A value that a template is filled in with. -/
inductive Value where
  | text (text : String)
  | number (number : Int)
  /-- The number of items of a list. -/
  | count (count : Nat)
  | list (items : List Value)
  | object (fields : List (String × Value))

end BindingGlue.Template
