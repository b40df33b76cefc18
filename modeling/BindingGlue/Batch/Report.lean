import BindingGlue.Batch.Run

/-!
# Reports

A report shows the fragments of a batch in sections, one for each kind of fragment that there is. A
refused batch is reported by its diagnostic alone, whatever the templates are.
-/

namespace BindingGlue

/-- A section of a report. -/
structure Section where
  /-- The label of the section. -/
  label : String
  /-- The fragments of the section, joined. -/
  body : String
  deriving DecidableEq

/-- The text of a section: its fragments on lines of their own, without the line feeds at the end.
-/
def Section.joined (fragments : List String) : String :=
  String.ofList (Text.dropEndWhile (· == '\n') ("\n".intercalate fragments).toList)

/-- The section as a template sees it. -/
def Section.value (part : Section) : Template.Value :=
  .object [("label", .text part.label), ("body", .text part.body)]

/-- The lists of fragments of an output, in the order of the sections. -/
def Output.lists (output : Output) : List (List String) :=
  [output.declarations, output.registrations, output.nativeBodies, output.typed]

/-- The sections of an output: a list without fragments, or without a label, has none. -/
def Output.sections (labels : List String) (output : Output) : List Section :=
  ((labels.zip output.lists).filter fun (_, fragments) ↦ !fragments.isEmpty).map
    fun (label, fragments) ↦ { label, body := Section.joined fragments }

namespace Generator

/-- The report of an output. -/
def report (generator : Generator) (output : Output) : Except Fault String :=
  let sections := output.sections generator.options.sectionLabels
  generator.fillTemplate generator.options.reportTemplate
    [("sections", .list (sections.map Section.value))]

/-- The report of a run's answer. -/
def render (generator : Generator) : Except Diagnostic Output → Except Fault String
  | .ok output => generator.report output
  | .error diagnostic => .ok (diagnostic.text ++ "\n")

/-- Processes a batch and reports on it. -/
def process (generator : Generator) (text : String) : Except Fault String := do
  generator.render (← generator.run text)

end Generator

end BindingGlue
