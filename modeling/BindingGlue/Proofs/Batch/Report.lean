import BindingGlue.Batch.Report
import BindingGlue.Proofs.Generator

/-!
# Reports with the standard template

The report is the texts of its sections, one after the other (`Generator.report_eq_ok`), so no
output is without one. A section ends with an empty line unless it is the last: the loop over the
sections has to look ahead for that.
-/

namespace BindingGlue

open Template

/-- The line that a section begins with. -/
def Section.rule : String :=
  "//----------------------------------------------------"

/-- The text of a section in a report. -/
def Section.text (part : Section) (isLast : Bool) : String :=
  rule ++ "\n" ++ ("// " ++ part.label ++ "\n") ++ (part.body ++ "\n") ++
    if isLast then "" else "\n"

/-- A section as an object that a template may be given for it: its label and its body are among the
fields, in any order and among any others. -/
structure SectionObject extends Section where
  /-- The fields of the object. -/
  fields : List (String × Value)
  label_eq : fields.lookup "label" = some (.text label)
  body_eq : fields.lookup "body" = some (.text body)

/-- The section as the object that stands for it in a report. -/
def Section.toObject (part : Section) : SectionObject where
  toSection := part
  fields := [("label", .text part.label), ("body", .text part.body)]
  label_eq := rfl
  body_eq := rfl

/-- What the language says of the lines of a section. -/
theorem SectionObject.joined_sectionPassages (object : SectionObject) (isLast : Bool)
    (values : List (String × Value)) :
    Meaning.joined (sectionPassages.map
        (Passage.fill (("section", .object object.fields) :: values) isLast)) =
      return object.text isLast := by
  have hfield : ∀ field text front, object.fields.lookup field = some (.text text) →
      fillPlace (("section", .object object.fields) :: values)
          (front, { name := "section", field? := some field }) = return front ++ text := by
    intro field text front htext
    rw [fillPlace, Path.value]
    simp [htext, Value.written]
  have hlabel := hfield "label" object.label "// " object.label_eq
  have hbody := hfield "body" object.body "" object.body_eq
  have hrule : ({ ending := "//----------------------------------------------------" } : Line) =
      { ending := Section.rule } := rfl
  rw [sectionPassages, hrule, Section.text]
  generalize Section.rule = rule
  simp only [List.map_cons, List.map_nil, Passage.fill, Line.fillWhole, Line.fill, Meaning.joined,
    hlabel, hbody]
  cases isLast <;> simp [String.append_assoc]

/-- Values for the template of a report: objects for its sections, among any others. -/
structure ReportContext where
  /-- The values by name. -/
  values : List (String × Value)
  /-- The sections, in order. -/
  sections : List SectionObject
  selfName_eq : values.lookup selfName = none
  sections_eq : values.lookup "sections" =
    some (.list (sections.map fun object ↦ .object object.fields))

/-- The values of a report of sections. -/
def ReportContext.ofSections (sections : List Section) : ReportContext where
  values := [("sections", .list (sections.map Section.value))]
  sections := sections.map Section.toObject
  selfName_eq := rfl
  sections_eq := by
    rw [List.map_map]
    rfl

/-- **What the standard report is**, for any sections: their texts, in order. -/
theorem render_report (engine : DocumentedEngine) (context : ReportContext) :
    engine.render [] "report.txt.j2" context.values =
      .ok (joined Section.text (context.sections.map SectionObject.toSection)) := by
  refine engine.render_eq source_report isPlain_report context.selfName_eq ?_
  have hturns : turns context.values "section" sectionPassages
      (context.sections.map fun object ↦ .object object.fields) = _ :=
    turns_map fun object _ isLast ↦ object.joined_sectionPassages isLast context.values
  have hblock : Block.fill context.values (.each "section" "sections" sectionPassages) =
      return joined (fun object ↦ object.text) context.sections := by
    rw [Block.fill, value_name, context.sections_eq, ← hturns]
    rfl
  show (do return (← Block.fill context.values _) ++ (← pure "")) = _
  rw [hblock, joined_map]
  simp
  rfl

theorem Section.isPrefix_text (part : Section) (isLast : Bool) :
    "//----".toList <+: (part.text isLast).toList := by
  have hrule : rule = "//----" ++ "------------------------------------------------" := by
    decide
  rw [text, hrule]
  simp only [String.append_assoc]
  rw [String.toList_append]
  exact List.prefix_append ..

/-- A report is empty, or it begins with the rule above its first section. -/
theorem joined_sectionText_eq_empty_or_isPrefix (sections : List Section) :
    joined Section.text sections = "" ∨
      "//----".toList <+: (joined Section.text sections).toList := by
  cases sections with
  | nil => exact .inl rfl
  | cons part sections =>
    right
    rw [joined, String.toList_append]
    exact (part.isPrefix_text _).trans (List.prefix_append ..)

/-- With the standard template there is a report of every output. -/
theorem Generator.report_eq_ok {generator : Generator}
    (htemplates : generator.UsesStandardTemplates) (output : Output) :
    generator.report output =
      .ok (joined Section.text (output.sections generator.options.sectionLabels)) := by
  let context := ReportContext.ofSections (output.sections generator.options.sectionLabels)
  have hsections : context.sections.map SectionObject.toSection =
      output.sections generator.options.sectionLabels := by
    simp [context, ReportContext.ofSections, Section.toObject, Function.comp_def]
  rw [← hsections, report, fillTemplate, htemplates.shelf_eq, htemplates.reportTemplate_eq]
  show (htemplates.engine.render [] "report.txt.j2" context.values).mapError Fault.template = _
  rw [render_report]
  rfl

/-- Processing a batch whose run gives an output reports on the output. -/
theorem Generator.process_eq_of_run {generator : Generator} {text : String} {output : Output}
    (hrun : generator.run text = .ok (.ok output)) :
    generator.process text = generator.report output := by
  rw [process, hrun]
  rfl

end BindingGlue
