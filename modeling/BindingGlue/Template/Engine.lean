import BindingGlue.Template.Plain
import BindingGlue.Template.Shelf

/-!
# Template engines

Templates are filled in by an engine, which is not part of this development: it may read more than
plain templates, and may fail in ways of its own. What is asked of an engine is that it does with
plain templates what the documentation of the language says (`Engine.IsDocumented`); of a template
that is not plain nothing is known but that its outcome depends on the files, the name and the
values alone.
-/

namespace BindingGlue.Template

/-- What fills in templates. -/
structure Engine where
  /-- Fills in the template of a name with values, where the user's shelf comes before the standard
  one. -/
  render : Shelf → String → List (String × Value) → Except Fault String

/-- The name that every template keeps for itself. -/
def selfName : String := "self"

/-- What the documentation of the language says of an engine. -/
structure Engine.IsDocumented (engine : Engine) : Prop where
  /-- A plain template is filled in as the language says, where it says something. -/
  render_plain : ∀ (shelf : Shelf) (name : String) (template : Plain)
    (values : List (String × Value)) (outcome : Except Fault String),
    source shelf name = .ok template.text → template.isPlain → values.lookup selfName = none →
      (template.fill values).run = some outcome → engine.render shelf name values = outcome

/-- An engine that does what the documentation says. -/
structure DocumentedEngine extends Engine where
  isDocumented : toEngine.IsDocumented

end BindingGlue.Template
