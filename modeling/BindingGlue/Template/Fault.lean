import BindingGlue.Text.Decimal
import BindingGlue.Text.Quoted

/-!
# Faults of templates

Why a template cannot be filled in, and how each cause is worded. An engine may have causes of its
own beside these.
-/

namespace BindingGlue.Template

/-- Why a template cannot be filled in. -/
inductive Fault where
  /-- No template has the name. -/
  | notFound (name : String)
  /-- There is a file under the name that cannot be read as a text. -/
  | unreadable (name : String)
  /-- The text is no template. -/
  | malformed
  /-- The constructs of the text stand too deep inside each other. -/
  | tooDeep
  /-- A value was given under a name that every template keeps for itself. -/
  | reservedName (name : String)
  /-- The name has no value. -/
  | undefinedName (name : String)
  /-- The owner has no such field. -/
  | undefinedField (owner field : String)
  /-- The first item of a loop has none before it. -/
  | noPreviousItem
  /-- The last item of a loop has none after it. -/
  | noNextItem
  /-- A value of that kind has no items. -/
  | notIterable (kind : String)
  /-- A number has too many digits to be written. -/
  | longNumber
  /-- Any other cause. -/
  | other (message : String)
  deriving DecidableEq

/-- The message of a fault. -/
def Fault.message : Fault → String
  | notFound name => "Template not found: " ++ name
  | unreadable name => "unreadable template: " ++ name
  | malformed => "malformed template"
  | tooDeep => "too many statically nested blocks"
  | reservedName name => "Template.render() got multiple values for argument " ++ Text.quoted name
  | undefinedName name => Text.quoted name ++ " is undefined"
  | undefinedField owner field => Text.quoted owner ++ " has no attribute " ++ Text.quoted field
  | noPreviousItem => "there is no previous item"
  | noNextItem => "there is no next item"
  | notIterable kind => Text.quoted kind ++ " object is not iterable"
  | longNumber =>
    "Exceeds the limit (" ++ Text.maxDigits.repr ++ " digits) for integer string conversion; " ++
      "use sys.set_int_max_str_digits() to increase the limit"
  | other message => message

end BindingGlue.Template
