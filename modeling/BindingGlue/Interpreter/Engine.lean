import BindingGlue.Interpreter.Reader
import BindingGlue.Template.Engine

/-!
# The interpreter as an engine

An engine that reads plain templates and some that are not: tags may stand within lines, conditions
on any path and remarks are known, loops may stand inside each other, and beside the given values
there are a few that every template has. All else of the template language is left out: expressions
with operators, calls, filters and literals, and the tags that set names, include other templates or
control white space. A text with any of these is malformed for the interpreter.
-/

namespace BindingGlue.Interpreter

open Template (Fault Shelf)

/-- What a template gives itself under that name. -/
def selfValue (name : String) : Value :=
  .thing "jinja2.runtime.TemplateReference" ("<TemplateReference " ++ Text.quoted name ++ ">")

/-- The names that stand for something in any template when nothing else is said. -/
def standardValues : List (String × Value) :=
  [("range", .kind "range"), ("dict", .kind "dict"),
   ("lipsum", .thing "function" "<function generate_lorem_ipsum>"),
   ("cycler", .kind "jinja2.utils.Cycler"), ("joiner", .kind "jinja2.utils.Joiner"),
   ("namespace", .kind "jinja2.utils.Namespace")]

/-- The values that are known throughout a template. -/
def rootValues (name : String) (nodes : List Node) (values : List (String × Template.Value)) :
    List (String × Value) :=
  let own := if knowsItself nodes then [(Template.selfName, selfValue name)] else []
  own ++ Value.givenFields values ++ standardValues

/-- Fills in the template of that name. -/
def render (user : Shelf) (name : String) (values : List (String × Template.Value)) :
    Except Fault String := do
  let nodes ← read (← Template.source user name)
  if (values.lookup Template.selfName).isSome then throw (.reservedName Template.selfName)
  (renderAll { root := rootValues name nodes values } nodes).run' []

/-- The interpreter. -/
def engine : Template.Engine where
  render

end BindingGlue.Interpreter
