import BindingGlue.Proofs.Fragments.Lines
import BindingGlue.Proofs.Fragments.Summary
import BindingGlue.Proofs.Interpreter.Documented

/-!
# Nothing is lost in a report

With the standard generator the report of a batch determines the fragments of the batch, list by
list and one by one (`Generator.report_lossless`), in both modes and however many methods there are.

The fragments of every line are delimited, so that a batch holds delimited fragments from its
beginning to its end (`Output.AreDelimited`). A report of such a batch gives its sections back, and
they give the lists back.
-/

namespace BindingGlue

open Text

variable {engine : Template.DocumentedEngine} {output output' : Output} {text other : String}
  {labels : List String}

/-! ### What a batch holds -/

/-- An output whose fragments are all delimited, each in the way of its kind. -/
structure Output.AreDelimited (output : Output) : Prop where
  isName_className : Signature.IsName output.className.toList
  declarations : ∀ text ∈ output.declarations, IsDelimited (fun _ ↦ true) 0 text
  registrations : ∀ text ∈ output.registrations, IsDelimited (fun _ ↦ true) 0 text
  nativeBodies : ∀ text ∈ output.nativeBodies, IsDelimited (· == ['\x7d']) 0 text
  typed : ∀ text ∈ output.typed, IsDelimited (·.isEmpty) 1 text

/-- An output that holds delimited fragments is delimited. -/
theorem Output.Holds.areDelimited {header : Header} {held : List Fragments}
    (hholds : output.Holds header held) (hname : Signature.IsName header.className.toList)
    (h : ∀ fragments ∈ held, fragments.AreDelimited) : output.AreDelimited := by
  obtain ⟨hdeclarations, hregistrations, hbodies, htyped⟩ := hholds.exists_of_mem
  refine ⟨hholds.className_eq ▸ hname, fun text htext ↦ ?_, fun text htext ↦ ?_,
    fun text htext ↦ ?_, fun text htext ↦ ?_⟩
  · obtain ⟨fragments, hfragments, htext⟩ := hdeclarations text htext
    exact (h fragments hfragments).declaration text htext
  · obtain ⟨fragments, hfragments, htext⟩ := hregistrations text htext
    exact (h fragments hfragments).registration text htext
  · obtain ⟨fragments, hfragments, htext⟩ := hbodies text htext
    exact (h fragments hfragments).nativeBody text htext
  · obtain ⟨fragments, hfragments, rfl⟩ := htyped text htext
    exact (h fragments hfragments).typed

/-- Every answer of the standard generator has delimited fragments. -/
theorem Generator.areDelimited_of_run (hrun : run (.standard engine) text = .ok (.ok output)) :
    output.AreDelimited := by
  obtain ⟨header, lines, held, hname, haccepts, hholds⟩ := exists_accepts_of_run hrun
  refine hholds.areDelimited hname fun fragments hfragments ↦ ?_
  obtain ⟨line, -, hline⟩ := haccepts.exists_of_mem hfragments
  exact areDelimited_of_generate hname hline

/-! ### What a report shows -/

/-- The sections of delimited fragments are told apart in a report. -/
theorem Output.AreDelimited.isPlain (h : output.AreDelimited)
    (hlabels : ∀ label ∈ labels, '\n' ∉ label.toList) {part : Section}
    (hpart : part ∈ output.sections labels) : part.IsPlain := by
  have hlists : ∀ texts ∈ output.lists, texts ≠ [] →
      Section.rule.toList ∉ linesOf (Section.joined texts) := by
    intro texts htexts hne
    simp only [Output.lists, List.mem_cons, List.not_mem_nil, or_false] at htexts
    rcases htexts with rfl | rfl | rfl | rfl
    · exact rule_notMem_joined hne h.declarations
    · exact rule_notMem_joined hne h.registrations
    · exact rule_notMem_joined hne h.nativeBodies
    · exact rule_notMem_joined hne h.typed
  obtain ⟨hlabel, texts, htexts, hne, hbody⟩ := Section.exists_of_mem_ofLists hpart
  exact ⟨hlabels _ hlabel, hbody ▸ hlists texts htexts hne⟩

/-- Equal sections have equal fragments. -/
theorem Output.AreDelimited.lists_eq (h : output.AreDelimited) (h' : output'.AreDelimited)
    (hnodup : labels.Nodup) (hlength : labels.length = 4)
    (heq : output.sections labels = output'.sections labels) : output.lists = output'.lists :=
  Section.eq_of_ofLists_eq hnodup hlength
    (.cons (fun hne hne' ↦ eq_of_joined_eq hne hne' h.declarations h'.declarations) <|
    .cons (fun hne hne' ↦ eq_of_joined_eq hne hne' h.registrations h'.registrations) <|
    .cons (fun hne hne' ↦ eq_of_joined_eq hne hne' h.nativeBodies h'.nativeBodies) <|
    .cons (fun hne hne' ↦ eq_of_joined_eq hne hne' h.typed h'.typed) .nil) heq

namespace Generator

/-- **Nothing is lost in a report.** The outputs of any two batches have reports, and where these
are equal, so are the lists of fragments of the four kinds. -/
theorem report_lossless (hrun : run (.standard engine) text = .ok (.ok output))
    (hrun' : run (.standard engine) other = .ok (.ok output')) :
    ∃ shown shown' : String, report (.standard engine) output = .ok shown ∧
      report (.standard engine) output' = .ok shown' ∧
      (shown = shown' →
        output.declarations = output'.declarations ∧ output.registrations = output'.registrations ∧
          output.nativeBodies = output'.nativeBodies ∧ output.typed = output'.typed) := by
  have htemplates := usesStandardTemplates_standard engine
  have hdelimited := areDelimited_of_run hrun
  have hdelimited' := areDelimited_of_run hrun'
  have hlabels : ∀ label ∈ ({} : Options).sectionLabels, '\n' ∉ label.toList := by decide
  refine ⟨_, _, report_eq_ok htemplates output, report_eq_ok htemplates output', fun heq ↦ ?_⟩
  have hsections := Section.eq_of_joined_text_eq (fun _ hpart ↦ hdelimited.isPlain hlabels hpart)
    (fun _ hpart ↦ hdelimited'.isPlain hlabels hpart) heq
  have hlists := hdelimited.lists_eq hdelimited' (by decide) rfl hsections
  simpa [Output.lists] using hlists

/-! ### Two batches with one report -/

/-- Lines whose signatures differ in how they were written have the same fragments. -/
theorem exists_generate_both {line line' : String} {signature : Signature} {isVirtual : Bool}
    (className : String) (hread : Signature.read .standard line = .ok signature)
    (hread' : Signature.read .standard line' =
      .ok { signature with isVirtual := isVirtual, line := line' }) :
    ∃ fragments, generate (.standard engine) className .operation line = .ok (.ok fragments) ∧
      generate (.standard engine) className .operation line' = .ok (.ok fragments) := by
  have hread : Signature.read (catalogue (.standard engine)) line = .ok signature := hread
  have hread' : Signature.read (catalogue (.standard engine)) line' =
      .ok { signature with isVirtual := isVirtual, line := line' } := hread'
  obtain ⟨fragments, hfragments⟩ :=
    exists_expand_eq_ok className (usesStandardTemplates_standard engine) hread
      (not_lacksElement_of_mem_standard (Signature.resultType_mem_of_read hread))
  have hfragments' : expand (.standard engine) className .operation line' = .ok fragments := by
    rw [expand_of_read hread', fragments_written (.standard engine), ← expand_of_read hread,
      hfragments]
    rfl
  exact ⟨fragments, by rw [generate, hfragments]; rfl, by rw [generate, hfragments']; rfl⟩

/-- A batch of two methods. -/
def menuText : String :=
  "// CLASS: QMenu\n// TODO: void clear();\n// TODO: QRect actionGeometry(int index) const;"

/-- The batch as it may be written otherwise. -/
def otherMenuText : String :=
  "//CLASS:QMenu\r\n//TODO:virtual void clear()\r\n\r\n" ++
    "// TODO: const QRect& actionGeometry( const int &index = 0 )"

/-- Two batches of several methods with one report. -/
theorem report_lossless_methods :
    ∃ (output output' : Output) (shown : String),
      run (.standard Interpreter.documented) menuText = .ok (.ok output) ∧
      run (.standard Interpreter.documented) otherMenuText = .ok (.ok output') ∧
      report (.standard Interpreter.documented) output = .ok shown ∧
      report (.standard Interpreter.documented) output' = .ok shown ∧
      output.lists.map List.length = [2, 2, 2, 2] ∧
      output.nativeBodies = output'.nativeBodies ∧ output.typed = output'.typed := by
  have hclear : Signature.read .standard "// TODO: void clear();" = .ok {
      name := "clear", resultType := Vocabulary.void, line := "// TODO: void clear();" } := by
    decide
  have hclear' : Signature.read .standard "//TODO:virtual void clear()" = .ok {
      name := "clear"
      resultType := Vocabulary.void
      isVirtual := true
      line := "//TODO:virtual void clear()" } := by
    decide
  have hgeometry : Signature.read .standard "// TODO: QRect actionGeometry(int index) const;" =
      .ok {
        name := "actionGeometry"
        resultType := Vocabulary.valueObject "QRect"
        arguments := [{ type := Vocabulary.signed "int", name := "index" }]
        line := "// TODO: QRect actionGeometry(int index) const;" } := by
    decide
  have hgeometry' : Signature.read .standard
      "// TODO: const QRect& actionGeometry( const int &index = 0 )" = .ok {
        name := "actionGeometry"
        resultType := Vocabulary.valueObject "QRect"
        arguments := [{ type := Vocabulary.signed "int", name := "index" }]
        line := "// TODO: const QRect& actionGeometry( const int &index = 0 )" } := by
    decide
  obtain ⟨first, hfirst, hfirst'⟩ := exists_generate_both "QMenu" hclear hclear'
  obtain ⟨second, hsecond, hsecond'⟩ := exists_generate_both "QMenu" hgeometry hgeometry'
  have hlines : contentLines menuText = ["// CLASS: QMenu", "// TODO: void clear();",
      "// TODO: QRect actionGeometry(int index) const;"] := by
    decide
  have hlines' : contentLines otherMenuText = ["//CLASS:QMenu", "//TODO:virtual void clear()",
      "// TODO: const QRect& actionGeometry( const int &index = 0 )"] := by
    decide
  have hheader : Header.Fits ⟨.operation, "QMenu"⟩ "// CLASS: QMenu".toList :=
    (Header.read?_eq_some_iff fun run c hc ↦
      isBlank_eq_false_of_mem_contentLines (hlines ▸ List.mem_cons_self) hc).1 (by decide)
  have hheader' : Header.Fits ⟨.operation, "QMenu"⟩ "//CLASS:QMenu".toList :=
    (Header.read?_eq_some_iff fun run c hc ↦
      isBlank_eq_false_of_mem_contentLines (hlines' ▸ List.mem_cons_self) hc).1 (by decide)
  have haccepts : Accepts (.standard Interpreter.documented) ⟨.operation, "QMenu"⟩
      ["// TODO: void clear();", "// TODO: QRect actionGeometry(int index) const;"]
      [first, second] :=
    .cons hfirst (.cons hsecond .nil)
  have haccepts' : Accepts (.standard Interpreter.documented) ⟨.operation, "QMenu"⟩
      ["//TODO:virtual void clear()",
        "// TODO: const QRect& actionGeometry( const int &index = 0 )"] [first, second] :=
    .cons hfirst' (.cons hsecond' .nil)
  obtain ⟨output, hrun, hholds⟩ := exists_run_eq_of_accepts hlines hheader haccepts
  obtain ⟨output', hrun', hholds'⟩ := exists_run_eq_of_accepts hlines' hheader' haccepts'
  obtain ⟨shown, shown', hreport, hreport', hlossless⟩ := report_lossless hrun hrun'
  have hsame : output = output' := by
    obtain ⟨hclass, hmode, hdeclarations, hregistrations, hbodies, htyped⟩ := hholds
    obtain ⟨hclass', hmode', hdeclarations', hregistrations', hbodies', htyped'⟩ := hholds'
    cases output
    cases output'
    simp_all
  have hshown : shown = shown' := by
    rw [hsame] at hreport
    exact Except.ok.inj (hreport.symm.trans hreport')
  obtain ⟨-, -, hbodies, htyped⟩ := hlossless hshown
  exact ⟨output, output', shown, hrun, hrun', hreport, hshown ▸ hreport',
    haccepts.lengths hholds, hbodies, htyped⟩

end Generator

end BindingGlue
