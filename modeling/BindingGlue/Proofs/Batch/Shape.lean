import BindingGlue.Proofs.Batch.Lossless
import BindingGlue.Proofs.Text.Spacing

/-!
# The shape of a report

Line feeds get into a report from many places: the empty line that a native body begins with, the
line feed that a typed fragment ends in, those between the fragments of a section, those that a
section drops at its end, and the empty line between two sections. What holds of all of them is
that a text is tidy (`IsTidy`): no two of its lines in a row are empty, it ends in no line feed or
in one, and in the latter case it does not begin with an empty line. Such texts one below the other
are tidy again (`isTidy_intercalate`), so that every fragment, every section and the whole report
is.

No section has the rule of a report among its lines, so that the lines of a report that are the rule
are those in front of its sections, of which there is one for each kind of fragment that the mode
has (`Generator.report_shape`).
-/

namespace BindingGlue

open Text

variable {engine : Template.DocumentedEngine} {feeds : Nat} {text : String}
  {texts labels : List String} {output : Output}

/-! ### Tidy texts -/

/-- A text with so many line feeds at its end that leaves no two empty lines in a row, also where
others like it stand above and below it. -/
structure IsTidy (feeds : Nat) (text : String) : Prop where
  endsInFeeds : EndsInFeeds feeds text
  isSpaced : IsSpaced (linesOf text)
  head?_ne : feeds = 0 ∨ (linesOf text).head? ≠ some []
  return_notMem : '\r' ∉ text.toList

/-- A text that ends in no line feed ends in a line with something in it. -/
theorem EndsInFeeds.getLast?_ne (h : EndsInFeeds 0 text) : (linesOf text).getLast? ≠ some [] := by
  obtain ⟨s, c, htext, hc⟩ := h
  intro hlast
  rcases exists_concat_of_getLast?_linesOf hlast with hnil | ⟨s', hfeed⟩
  · rw [htext] at hnil
    simp at hnil
  · rw [htext, List.replicate_zero] at hfeed
    exact hc (List.cons.inj (List.append_inj_right' hfeed rfl)).1

/-- **Tidy texts one below the other are tidy.** -/
theorem isTidy_intercalate (hne : texts ≠ []) (h : ∀ text ∈ texts, IsTidy feeds text) :
    IsTidy feeds ("\n".intercalate texts) := by
  have hblocks : ∀ {P : List (List Char) → Prop}, (∀ text ∈ texts, P (linesOf text)) →
      ∀ block ∈ texts.map linesOf, P block := by
    simp
  refine ⟨endsInFeeds_intercalate hne fun text htext ↦ (h text htext).endsInFeeds, ?_, ?_, ?_⟩
  · rw [linesOf_intercalate hne]
    refine isSpaced_flatten ?_ (hblocks fun text htext ↦ (h text htext).isSpaced) ?_
    · simp [linesOf_ne_nil]
    -- between two of them there is at most the empty line that one of them ends or begins with
    · obtain rfl | hpos := Nat.eq_zero_or_pos feeds
      · exact .inl (hblocks fun text htext ↦ (h text htext).endsInFeeds.getLast?_ne)
      · exact .inr (hblocks fun text htext ↦ (h text htext).head?_ne.resolve_left hpos.ne')
  · obtain ⟨first, others, rfl⟩ := List.exists_cons_of_ne_nil hne
    rw [linesOf_intercalate hne, List.map_cons, List.flatten_cons,
      List.head?_append_of_ne_nil _ (linesOf_ne_nil first)]
    exact (h first List.mem_cons_self).head?_ne
  · exact not_mem_intercalate (by decide) fun text htext ↦ (h text htext).return_notMem

/-- A text on one line is tidy, unless it is empty. -/
theorem isTidy_of_line (hne : text ≠ "") (h : OnOneLine text.toList) : IsTidy 0 text where
  endsInFeeds := endsInFeeds_of_line hne h.lineFeed_notMem
  isSpaced := by
    rw [linesOf_eq_singleton h.lineFeed_notMem]
    exact List.IsChain.singleton _
  head?_ne := .inl rfl
  return_notMem := (onOneLine_iff.1 h).2

/-- Tidy texts below a line that is not empty may have a line feed at their end. -/
theorem isTidy_intercalate_concat {first : String} (hne : first ≠ "")
    (hfirst : OnOneLine first.toList) (h : ∀ text ∈ texts, IsTidy 0 text) :
    IsTidy 1 ("\n".intercalate (first :: texts ++ [""])) := by
  have hall : IsTidy 0 ("\n".intercalate (first :: texts)) :=
    isTidy_intercalate (by simp) (List.forall_mem_cons.2 ⟨isTidy_of_line hne hfirst, h⟩)
  have htext : ("\n".intercalate (first :: texts ++ [""])).toList =
      ("\n".intercalate (first :: texts)).toList ++ ['\n'] := by
    rw [String.intercalate_append_of_ne_nil (by simp) (by simp)]
    simp
  have hlines : linesOf ("\n".intercalate (first :: texts ++ [""])) =
      linesOf ("\n".intercalate (first :: texts)) ++ [[]] := by
    rw [linesOf_intercalate (by simp), linesOf_intercalate (by simp), List.map_append,
      List.flatten_append]
    rfl
  refine ⟨?_, ?_, ?_, ?_⟩
  · obtain ⟨s, c, heq, hc⟩ := hall.endsInFeeds
    exact ⟨s, c, by rw [htext, heq]; simp, hc⟩
  · rw [hlines]
    refine List.IsChain.append hall.isSpaced (List.IsChain.singleton _) fun line hline _ _ ↦ ?_
    left
    rintro rfl
    exact hall.endsInFeeds.getLast?_ne hline
  · rw [linesOf_intercalate (by simp), List.cons_append, List.map_cons, List.flatten_cons,
      linesOf_eq_singleton hfirst.lineFeed_notMem]
    exact .inr (by simpa using hne)
  · rw [htext]
    simpa using hall.return_notMem

/-- A section drops the line feeds at its end, and stays tidy. -/
theorem isTidy_joined (hne : texts ≠ []) (h : ∀ text ∈ texts, IsTidy feeds text) :
    IsTidy 0 (Section.joined texts) := by
  obtain ⟨hends, hspaced, -, hreturn⟩ := isTidy_intercalate hne h
  have htext := toList_joined_append hends
  refine ⟨?_, List.IsChain.prefix hspaced (linesOf_joined_isPrefix hends), .inl rfl, ?_⟩
  · obtain ⟨s, c, heq, hc⟩ := hends
    have hsplit : (Section.joined texts).toList ++ List.replicate feeds '\n' =
        s ++ [c] ++ List.replicate feeds '\n' := by
      rw [htext, heq]
      simp
    exact ⟨s, c, List.append_cancel_right hsplit, hc⟩
  · intro hmem
    exact hreturn (htext ▸ List.mem_append_left _ hmem)

/-! ### Fragments -/

/-- A native body has two empty lines, the first one and one before the arity is checked. -/
theorem Native.isTidy_nativeBodyLines {wrapper name argc invocation : String}
    {extraction packing : List String}
    (hlines : ∀ line ∈ Template.nativeBodyLines wrapper name argc extraction invocation packing,
      OnOneLine line.toList) :
    IsTidy 0 ("\n".intercalate
      (Template.nativeBodyLines wrapper name argc extraction invocation packing)) where
  endsInFeeds := (isDelimited_nativeBodyLines hlines).endsInFeeds
  isSpaced := by
    rw [linesOf_intercalate_of_notMem (by simp [Template.nativeBodyLines])
      fun line hline ↦ (hlines line hline).lineFeed_notMem]
    have hopening : IsSpaced ((Template.openingLines wrapper name argc).map String.toList) := by
      simp [Template.openingLines, IsSpaced]
    simp only [Template.nativeBodyLines, List.map_append, List.append_assoc]
    refine hopening.append fun line hline ↦ ?_
    simp only [List.map_map, List.map_cons, List.map_nil, List.mem_append, List.mem_map,
      List.mem_singleton, Function.comp_apply] at hline
    rcases hline with ⟨_, -, rfl⟩ | rfl | ⟨_, -, rfl⟩ | rfl
    all_goals simp
  head?_ne := .inl rfl
  return_notMem := not_mem_intercalate (by decide) fun line hline ↦
    (onOneLine_iff.1 (hlines line hline)).2

/-- A typed fragment has one empty line, the last one. -/
theorem Typed.isTidy_layout {name result statement : String} {arguments : List Argument}
    (hhead : OnOneLine (head name arguments result).toList)
    (hstatement : OnOneLine statement.toList) :
    IsTidy 1 (layout name arguments result statement) := by
  have hbody : IsTidy 0 ("        " ++ statement) :=
    isTidy_of_line (by simp) (by simp +decide [hstatement])
  have hbrace : IsTidy 0 "    \x7d" := isTidy_of_line (by decide) (by decide)
  rw [layout_eq_intercalate]
  exact isTidy_intercalate_concat (by simp [head]) hhead (by simp [hbody, hbrace])

/-- Fragments each of which is tidy. -/
structure Fragments.AreTidy (fragments : Fragments) : Prop where
  declaration : ∀ text ∈ fragments.declaration, IsTidy 0 text
  registration : ∀ text ∈ fragments.registration, IsTidy 0 text
  nativeBody : ∀ text ∈ fragments.nativeBody, IsTidy 0 text
  typed : IsTidy 1 fragments.typed

namespace Generator

variable {fragments : Fragments} {className line : String} {mode : Mode}

/-- The fragments of a line are tidy, in both modes. -/
theorem areTidy_of_generate (hclass : Signature.IsName className.toList)
    (h : generate (.standard engine) className mode line = .ok (.ok fragments)) :
    fragments.AreTidy := by
  obtain ⟨signature, hread, -⟩ := generate_eq_ok_iff.1 h
  have hread : Signature.read Catalogue.standard line = .ok signature := hread
  have hclass : OnOneLine className.toList :=
    onOneLine_of_isWord fun c hc ↦ hclass.isWord_of_mem hc
  have hof := areOf_of_generate hread h
  obtain ⟨hname, -⟩ := onOneLine_of_read hread
  refine ⟨fun text htext ↦ ?_, fun text htext ↦ ?_, fun text htext ↦ ?_, ?_⟩
  · rw [hof.declaration text htext]
    exact isTidy_of_line (by simp [Native.declaration]) (Native.onOneLine_declaration hname)
  · rw [hof.registration text htext]
    exact isTidy_of_line (by simp [Native.registration_standard])
      (Native.onOneLine_registration hclass hname)
  · obtain ⟨_, _, -, -, rfl, hlines⟩ :=
      exists_bodyLines_of_read hclass hread (hof.nativeBody text htext)
    exact Native.isTidy_nativeBodyLines hlines
  · obtain ⟨statement, hstatement, heq⟩ := hof.typed
    rw [heq]
    exact Typed.isTidy_layout (onOneLine_head_of_read hread) hstatement

end Generator

/-! ### Sections -/

/-- A text with the shape of a report whose sections have the labels, in their order: every section
begins with the rule, and has its label on the line below. -/
structure HasReportShape (labels : List String) (report : String) : Prop where
  head?_eq : (linesOf report).head? = some Section.rule.toList
  endsInFeeds : EndsInFeeds 1 report
  not_isInfix : ¬ ['\n', '\n', '\n'] <:+: report.toList
  return_notMem : '\r' ∉ report.toList
  count_rule : (linesOf report).count Section.rule.toList = labels.length
  exists_blocks : ∃ blocks : List (List (List Char)),
    linesOf report = (blocks.map (Section.rule.toList :: ·)).flatten ∧
      (∀ block ∈ blocks, Section.rule.toList ∉ block) ∧
      blocks.map List.head? = labels.map fun label ↦ some ("// " ++ label).toList

namespace Section

variable {part : Section} {sections : List Section}

/-- A section with a tidy body is tidy. -/
theorem isTidy_shownText (hlabel : OnOneLine part.label.toList) (hbody : IsTidy 0 part.body) :
    IsTidy 1 part.shownText := by
  have hlabel : IsTidy 0 ("// " ++ part.label) :=
    isTidy_of_line (by simp) (by simp +decide [hlabel])
  have htexts : [rule, "// " ++ part.label, part.body, ""] =
      rule :: ["// " ++ part.label, part.body] ++ [""] := rfl
  rw [shownText, htexts]
  exact isTidy_intercalate_concat (by decide) (by decide) (by simp [hlabel, hbody])

/-- Plain sections with tidy bodies make a report of the shape. -/
theorem hasReportShape_joined_text (hne : sections ≠ []) (hplain : ∀ part ∈ sections, part.IsPlain)
    (htidy : ∀ part ∈ sections, OnOneLine part.label.toList ∧ IsTidy 0 part.body) :
    HasReportShape (sections.map label) (Template.joined Section.text sections) := by
  have hlines := linesOf_joined_text hne hplain
  have hblocks : ∀ block ∈ sections.map shownLines, rule.toList ∉ block := by
    intro block hblock
    obtain ⟨part, hpart, rfl⟩ := List.mem_map.1 hblock
    exact (hplain part hpart).rule_notMem_shownLines
  have hreport : IsTidy 1 (Template.joined Section.text sections) := by
    rw [joined_text]
    refine isTidy_intercalate (by simpa using hne) fun shown hshown ↦ ?_
    obtain ⟨part, hpart, rfl⟩ := List.mem_map.1 hshown
    obtain ⟨hlabel, hbody⟩ := htidy part hpart
    exact isTidy_shownText hlabel hbody
  refine ⟨?_, hreport.endsInFeeds, not_isInfix_of_isSpaced hreport.isSpaced,
    hreport.return_notMem, ?_, sections.map shownLines, hlines, hblocks, ?_⟩
  · obtain ⟨part, others, rfl⟩ := List.exists_cons_of_ne_nil hne
    rw [hlines]
    rfl
  · rw [hlines, count_flatten_cons hblocks, List.length_map, List.length_map]
  · simp [shownLines]

end Section

/-! ### Reports -/

/-- The fragments of every list of an output are tidy, with the same number of line feeds at the
end. -/
theorem Output.Holds.exists_isTidy {header : Header} {held : List Fragments}
    (hholds : output.Holds header held) (h : ∀ fragments ∈ held, fragments.AreTidy)
    (htexts : texts ∈ output.lists) : ∃ feeds, ∀ text ∈ texts, IsTidy feeds text := by
  obtain ⟨hdeclarations, hregistrations, hbodies, htyped⟩ := hholds.exists_of_mem
  simp only [Output.lists, List.mem_cons, List.not_mem_nil, or_false] at htexts
  rcases htexts with rfl | rfl | rfl | rfl
  · refine ⟨0, fun text htext ↦ ?_⟩
    obtain ⟨fragments, hfragments, htext⟩ := hdeclarations text htext
    exact (h fragments hfragments).declaration text htext
  · refine ⟨0, fun text htext ↦ ?_⟩
    obtain ⟨fragments, hfragments, htext⟩ := hregistrations text htext
    exact (h fragments hfragments).registration text htext
  · refine ⟨0, fun text htext ↦ ?_⟩
    obtain ⟨fragments, hfragments, htext⟩ := hbodies text htext
    exact (h fragments hfragments).nativeBody text htext
  · refine ⟨1, fun text htext ↦ ?_⟩
    obtain ⟨fragments, hfragments, rfl⟩ := htyped text htext
    exact (h fragments hfragments).typed

/-- The labels of the sections of a report that has any. -/
def Mode.shownLabels : Mode → List String
  | .operation => ["C++ declaration", "Napi declaration", "C++ body", "TS body"]
  | .property => ["TS body"]

namespace Generator

/-- An answer with a method has the sections of its mode, one without has none. -/
theorem map_label_sections (hrun : run (.standard engine) text = .ok (.ok output)) :
    (output.sections ({} : Options).sectionLabels).map Section.label =
      if output.methodCount = 0 then [] else output.mode.shownLabels := by
  obtain ⟨header, lines, held, -, haccepts, hholds⟩ := exists_accepts_of_run hrun
  have hcount : output.methodCount = lines.length := by
    rw [hholds.methodCount_eq, haccepts.length_eq]
  rw [Output.sections, ← Section.ofLists, Section.map_label_ofLists, haccepts.lengths hholds,
    hcount, hholds.mode_eq]
  by_cases hnone : lines.length = 0
  · cases header.mode <;> simp [hnone]
  · cases header.mode <;> simp [hnone, Mode.shownLabels]

/-- The sections of an answer have tidy bodies. -/
theorem isTidy_of_mem_sections (hrun : run (.standard engine) text = .ok (.ok output))
    {part : Section}
    (hpart : part ∈ output.sections labels) : part.label ∈ labels ∧ IsTidy 0 part.body := by
  obtain ⟨header, lines, held, hname, haccepts, hholds⟩ := exists_accepts_of_run hrun
  obtain ⟨hlabel, texts, htexts, hne, hbody⟩ := Section.exists_of_mem_ofLists hpart
  have htidy : ∀ fragments ∈ held, fragments.AreTidy := by
    intro fragments hfragments
    obtain ⟨line, -, hline⟩ := haccepts.exists_of_mem hfragments
    exact areTidy_of_generate hname hline
  obtain ⟨feeds, htidy⟩ := hholds.exists_isTidy htidy htexts
  exact ⟨hlabel, hbody ▸ isTidy_joined hne htidy⟩

/-- **The shape of a report.** Every batch whose run gives an output has a report. It is empty if
there is no method. Otherwise it begins with the rule of its first section, ends in one line feed,
has no three line feeds in a row and no carriage return, and the rule is on as many of its lines as
there are labels of the mode, with one of these labels on the line below each, in their order. -/
theorem report_shape (hrun : run (.standard engine) text = .ok (.ok output)) :
    ∃ report : String, process (.standard engine) text = .ok report ∧
      (output.methodCount = 0 → report = "") ∧
      (output.methodCount ≠ 0 → HasReportShape output.mode.shownLabels report) := by
  have hlabels : ∀ label ∈ ({} : Options).sectionLabels, OnOneLine label.toList := by decide
  have hshown := map_label_sections hrun
  refine ⟨Template.joined Section.text (output.sections ({} : Options).sectionLabels), ?_, ?_, ?_⟩
  · rw [process_eq_of_run hrun, report_eq_ok (usesStandardTemplates_standard engine)]
    rfl
  · intro hnone
    rw [if_pos hnone, List.map_eq_nil_iff] at hshown
    rw [hshown]
    rfl
  · intro hsome
    rw [if_neg hsome] at hshown
    rw [← hshown]
    refine Section.hasReportShape_joined_text ?_ ?_ ?_
    · rintro hnil
      rw [hnil] at hshown
      cases hmode : output.mode <;> simp [hmode, Mode.shownLabels] at hshown
    · exact fun part hpart ↦ (areDelimited_of_run hrun).isPlain
        (fun label hlabel ↦ (hlabels label hlabel).lineFeed_notMem) hpart
    · intro part hpart
      obtain ⟨hlabel, hbody⟩ := isTidy_of_mem_sections hrun hpart
      exact ⟨hlabels _ hlabel, hbody⟩

/-- A report of one native method, with its four sections. -/
theorem report_shape_indent :
    ∃ (output : Output) (report : String),
      run (.standard Interpreter.documented) "// CLASS: QLabel\n// TODO: int indent();" =
        .ok (.ok output) ∧
      process (.standard Interpreter.documented) "// CLASS: QLabel\n// TODO: int indent();" =
        .ok report ∧
      HasReportShape ["C++ declaration", "Napi declaration", "C++ body", "TS body"] report := by
  have hlines : contentLines "// CLASS: QLabel\n// TODO: int indent();" =
      "// CLASS: QLabel" :: ["// TODO: int indent();"] := by
    rw [contentLines, String.toList_ofList]
    rfl
  have hheader : Header.Fits ⟨.operation, "QLabel"⟩ "// CLASS: QLabel".toList := by
    refine ⟨[' '], [' '], by simp [Mode.keyword], Signature.isBlanks_space,
      Signature.isBlanks_space, ?_⟩
    rw [String.toList_ofList]
    exact ⟨'Q', _, rfl, rfl, by simp [isWord]⟩
  have hread : Signature.read (catalogue (.standard Interpreter.documented))
      "// TODO: int indent();" = .ok {
      name := "indent"
      resultType := Vocabulary.signed "int"
      arguments := []
      line := "// TODO: int indent();" } := by
    rw [Signature.read, String.toList_ofList]
    rfl
  obtain ⟨fragments, hexpand⟩ := exists_expand_eq_ok "QLabel"
    (usesStandardTemplates_standard Interpreter.documented) hread
    (not_lacksElement_of_mem_standard (Signature.resultType_mem_of_read hread))
  have hline : generate (.standard Interpreter.documented) "QLabel" .operation
      "// TODO: int indent();" = .ok (.ok fragments) := by
    rw [generate, hexpand]
    rfl
  obtain ⟨output, hrun, hholds⟩ := exists_run_eq_of_accepts hlines hheader (.cons hline .nil)
  obtain ⟨report, hprocess, -, hshape⟩ := report_shape hrun
  have hcount : output.methodCount ≠ 0 := by
    rw [hholds.methodCount_eq]
    exact Nat.one_ne_zero
  have hmode : output.mode = .operation := hholds.mode_eq
  rw [hmode] at hshape
  exact ⟨output, report, hrun, hprocess, hshape hcount⟩

end Generator

end BindingGlue
