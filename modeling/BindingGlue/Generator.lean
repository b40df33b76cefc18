import BindingGlue.Conversion.Expand
import BindingGlue.Refusal
import BindingGlue.Options
import BindingGlue.Template.Engine
import BindingGlue.Types.Catalogue

/-!
# Generators and how they fail

A generator is a choice of options, a catalogue of types, a shelf of templates and the engine that
fills these in. Generation fails in two ways that never mix: the input is refused, which is an
answer to be shown, or the generator itself is at fault, because its catalogue or one of its
templates is.
-/

namespace BindingGlue

/-- What code is generated with. -/
structure Generator where
  /-- What fills in templates. -/
  engine : Template.Engine
  /-- The options of the generated code. -/
  options : Options := {}
  /-- The types that signatures may use. -/
  catalogue : Catalogue := .standard
  /-- The user's templates. -/
  shelf : Template.Shelf := []

/-- A fault of a generator. -/
inductive Fault where
  /-- A list type whose element is not in the catalogue. -/
  | missingElement (list : String)
  /-- An argument of a type that has no values. -/
  | voidArgument (name : String)
  /-- A conversion that cannot be filled in. -/
  | conversion (fault : Conversion.Fault)
  /-- A template that cannot be filled in. -/
  | template (fault : Template.Fault)
  deriving DecidableEq

/-- The message of a fault. -/
def Fault.message : Fault → String
  | missingElement list => "List type " ++ list ++ " has no registered element type"
  | voidArgument name => "argument '" ++ name ++ "' has no value"
  | conversion fault => fault.message
  | template fault => fault.message

/-- Why nothing was generated. -/
inductive Failure where
  /-- The input is refused. -/
  | refused (refusal : Refusal)
  /-- The generator is at fault. -/
  | broken (fault : Fault)
  deriving DecidableEq

/-- The element entry of a list type, which has to be in the catalogue. -/
def Generator.element (generator : Generator) (type : TypeEntry) : Except Fault TypeEntry :=
  match generator.catalogue.elementType? type with
  | some element => .ok element
  | none => .error (.missingElement type.name)

/-- Fills in the template of that name. -/
def Generator.fillTemplate (generator : Generator) (name : String)
    (values : List (String × Template.Value)) : Except Fault String :=
  (generator.engine.render generator.shelf name values).mapError .template

/-- The generator with the standard options, types and templates, which are filled in by some engine
that does what the documentation of the template language says. -/
def Generator.standard (engine : Template.DocumentedEngine) : Generator where
  engine := engine.toEngine

end BindingGlue
