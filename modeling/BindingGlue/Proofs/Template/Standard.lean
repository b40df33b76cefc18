import BindingGlue.Template.Engine

/-!
# The standard templates are plain

Both standard templates are texts of plain templates (`nativeBody_text`, `report_text`), so what the
language says of plain templates decides what is written with them.
-/

namespace BindingGlue.Template

/-- The body of the loops over lines. -/
def indentedLine : List Passage :=
  [.line { places := [("  ", { name := "line" })] }]

/-- The parts of the standard template of a native body. -/
def nativeBody : Plain := [
  .line {},
  .line {
    places := [("Napi::Value ", { name := "wrapper" }), ("::", { name := "name" })]
    ending := "(const Napi::CallbackInfo& info) \x7b" },
  .line { ending := "  Napi::Env env = info.Env();" },
  .line { ending := "  Napi::HandleScope scope(env);" },
  .line {},
  .line { places := [("  if (info.Length() != ", { name := "argc" })], ending := ") \x7b" },
  .line { ending := "    Napi::TypeError::New(env, \"Wrong number of arguments\")" },
  .line { ending := "        .ThrowAsJavaScriptException();" },
  .line { ending := "    return env.Null();" },
  .line { ending := "  \x7d" },
  .each "line" "extraction" indentedLine,
  .line { places := [("  ", { name := "invocation" })] },
  .each "line" "packing" indentedLine,
  .line { ending := "\x7d" }]

/-- The body of the loop over sections. -/
def sectionPassages : List Passage := [
  .line { ending := "//----------------------------------------------------" },
  .line { places := [("// ", { name := "section", field? := some "label" })] },
  .line { places := [("", { name := "section", field? := some "body" })] },
  .unlessLast [{}]]

/-- The parts of the standard template of the report. -/
def report : Plain :=
  [.each "section" "sections" sectionPassages]

theorem nativeBody_text : nativeBody.text = nativeBodyText := by
  decide +kernel

theorem report_text : report.text = reportText := by
  decide +kernel

theorem isPlain_nativeBody : nativeBody.isPlain := by
  decide

theorem isPlain_report : report.isPlain := by
  decide

theorem steps?_standard :
    steps? "native_body.cpp.j2" = some ["native_body.cpp.j2"] ∧
      steps? "report.txt.j2" = some ["report.txt.j2"] :=
  ⟨rfl, rfl⟩

theorem source_nativeBody : source [] "native_body.cpp.j2" = .ok nativeBody.text := by
  simp [source, Shelf.find?, standardShelf, steps?_standard, nativeBody_text]

theorem source_report : source [] "report.txt.j2" = .ok report.text := by
  simp [source, Shelf.find?, standardShelf, steps?_standard, report_text]

end BindingGlue.Template
