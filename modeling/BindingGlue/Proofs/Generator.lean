import BindingGlue.Generator
import BindingGlue.Proofs.Template.Rendering

/-!
# Generators with the standard templates

What is written with the standard templates is known of every generator that has no templates of its
own and keeps their names, whichever documented engine fills them in.
-/

namespace BindingGlue

open Template (NativeBodyContext)

namespace Generator

variable {generator : Generator}

@[simp] theorem standard_catalogue (engine : Template.DocumentedEngine) :
    (standard engine).catalogue = .standard :=
  rfl

@[simp] theorem standard_options (engine : Template.DocumentedEngine) :
    (standard engine).options = {} :=
  rfl

/-- The generator has no templates of its own and keeps the names of the standard ones, which are
filled in by an engine that does what the documentation says. -/
structure UsesStandardTemplates (generator : Generator) : Prop where
  isDocumented : generator.engine.IsDocumented
  shelf_eq : generator.shelf = []
  nativeBodyTemplate_eq : generator.options.nativeBodyTemplate = "native_body.cpp.j2"
  reportTemplate_eq : generator.options.reportTemplate = "report.txt.j2"

theorem usesStandardTemplates_standard (engine : Template.DocumentedEngine) :
    (standard engine).UsesStandardTemplates :=
  ⟨engine.isDocumented, rfl, rfl, rfl⟩

/-- The engine of the generator, with what is known of it. -/
def UsesStandardTemplates.engine (h : generator.UsesStandardTemplates) :
    Template.DocumentedEngine where
  toEngine := generator.engine
  isDocumented := h.isDocumented

end Generator

end BindingGlue
