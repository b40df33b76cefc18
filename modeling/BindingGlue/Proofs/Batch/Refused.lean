import BindingGlue.Batch.Report
import BindingGlue.Proofs.Batch.Run
import BindingGlue.Proofs.Signature.Refused

/-!
# Refused batches

A line is refused by the catalogue alone (`Catalogue.Refuses`): the options of a generator and its
templates, which may be at fault where others are not, have no part in it. So two generators with
one catalogue that both answer a batch refuse it alike (`answer_eq_of_run_refused`).

A refused batch is refused for having no line, for its first line, or for one of its further lines
(`refused_cases`). In each case what is shown of it is one line (`process_eq_of_refused`): neither
the line at fault nor the message about it has an end of a line in it.
-/

namespace BindingGlue

open Text

variable {generator other : Generator} {className line text : String} {mode : Mode}
  {lines : List String} {output output' : Output} {refusal : Refusal} {diagnostic : Diagnostic}
  {answer : Except Diagnostic Output}

/-- The refusal of a line: it is no signature or, in property mode, its signature is no property. -/
def Catalogue.Refuses (catalogue : Catalogue) (mode : Mode) (line : String) (refusal : Refusal) :
    Prop :=
  Signature.read catalogue line = .error refusal ∨
    mode = .property ∧ ∃ signature, Signature.read catalogue line = .ok signature ∧
      Typed.IsUnfit signature refusal

theorem Catalogue.Refuses.isOf {catalogue : Catalogue} (h : catalogue.Refuses mode line refusal) :
    refusal.IsOf (String.ofList (trim line.toList)) := by
  rcases h with hread | ⟨-, signature, hread, hunfit⟩
  · exact Signature.isOf_of_read hread
  · exact Signature.isOf_of_isUnfit hread hunfit

namespace Generator

/-! ### Lines -/

theorem fragments_eq_refused_iff {signature : Signature} :
    generator.fragments className mode signature = .error (.refused refusal) ↔
      mode = .property ∧ Typed.IsUnfit signature refusal := by
  cases mode with
  | operation =>
    rw [fragments]
    cases generator.operationFragments className signature <;> simp [Except.mapError]
  | property =>
    have hunfit : Typed.property generator.options signature = .error (.refused refusal) ↔
        Typed.IsUnfit signature refusal :=
      Typed.property_eq_refused_iff
    rw [fragments, ← hunfit]
    cases Typed.property generator.options signature <;> simp [Except.map]

/-- A line is refused for its refusals under the catalogue. -/
theorem expand_eq_refused_iff :
    generator.expand className mode line = .error (.refused refusal) ↔
      generator.catalogue.Refuses mode line refusal := by
  rw [Catalogue.Refuses]
  rcases hread : Signature.read generator.catalogue line with other | signature
  · rw [expand, hread]
    simp [Except.mapError, bind, Except.bind]
  · have hexpand : generator.expand className mode line =
        generator.fragments className mode signature := by
      rw [expand, hread]
      rfl
    rw [hexpand, fragments_eq_refused_iff]
    simp

theorem generate_eq_error_iff :
    generator.generate className mode line = .ok (.error diagnostic) ↔
      ∃ refusal, generator.catalogue.Refuses mode line refusal ∧
        diagnostic = refusal.diagnostic := by
  have hexpand : ∀ refusal, generator.expand className mode line = .error (.refused refusal) ↔
      generator.catalogue.Refuses mode line refusal :=
    fun _ ↦ expand_eq_refused_iff
  simp only [← hexpand]
  rw [generate]
  rcases generator.expand className mode line with (refusal | fault) | fragments
  · simp [answered, eq_comm]
  · simp [answered]
  · simp [answered]

/-! ### Runs -/

/-- A run is refused for one of its lines. -/
theorem exists_refused_of_runLines
    (h : generator.runLines output lines = .ok (.error diagnostic)) :
    ∃ line ∈ lines, ∃ refusal, generator.catalogue.Refuses output.mode line refusal ∧
      diagnostic = refusal.diagnostic := by
  induction lines generalizing output with
  | nil => cases Except.ok.inj h
  | cons line lines ih =>
    rcases hline : generator.generate output.className output.mode line with
      fault | diagnostic' | fragments
    · rw [runLines_cons_of_fault hline] at h
      cases h
    · rw [runLines_cons_of_refused hline] at h
      obtain rfl := Except.error.inj (Except.ok.inj h)
      exact ⟨line, List.mem_cons_self, generate_eq_error_iff.1 hline⟩
    · rw [runLines_cons_of_accepted hline] at h
      obtain ⟨culprit, hculprit, hrefused⟩ := ih h
      exact ⟨culprit, List.mem_cons_of_mem _ hculprit, hrefused⟩

/-- Where one generator refuses lines, another one with the same catalogue refuses them alike,
unless it is at fault. -/
theorem answer_eq_of_runLines_refused (hcatalogue : other.catalogue = generator.catalogue)
    (hmode : output'.mode = output.mode)
    (h : generator.runLines output lines = .ok (.error diagnostic))
    (h' : other.runLines output' lines = .ok answer) : answer = .error diagnostic := by
  -- the outputs so far may differ, as templates do, but not in what selects the mode
  induction lines generalizing output output' with
  | nil => cases Except.ok.inj h
  | cons line lines ih =>
    have hsame : ∀ diagnostic',
        generator.generate output.className output.mode line = .ok (.error diagnostic') ↔
          other.generate output'.className output'.mode line = .ok (.error diagnostic') := by
      intro diagnostic'
      rw [generate_eq_error_iff, generate_eq_error_iff, hcatalogue, hmode]
    rcases hline : generator.generate output.className output.mode line with
      fault | diagnostic' | fragments
    · rw [runLines_cons_of_fault hline] at h
      cases h
    · rw [runLines_cons_of_refused hline] at h
      rw [runLines_cons_of_refused ((hsame diagnostic').1 hline)] at h'
      exact (Except.ok.inj h').symm.trans (Except.ok.inj h)
    · rcases hline' : other.generate output'.className output'.mode line with
        fault | diagnostic' | fragments'
      · rw [runLines_cons_of_fault hline'] at h'
        cases h'
      · rw [(hsame diagnostic').2 hline'] at hline
        cases Except.ok.inj hline
      · rw [runLines_cons_of_accepted hline] at h
        rw [runLines_cons_of_accepted hline'] at h'
        have hmode' : (output'.add fragments').mode = (output.add fragments).mode := hmode
        exact ih hmode' h h'

/-- A generator with other options and templates refuses a batch alike, unless it is at fault. -/
theorem answer_eq_of_run_refused (hcatalogue : other.catalogue = generator.catalogue)
    (h : generator.run text = .ok (.error diagnostic)) (h' : other.run text = .ok answer) :
    answer = .error diagnostic := by
  rw [run] at h h'
  cases hlines : contentLines text with
  | nil =>
    simp only [hlines] at h h'
    exact (Except.ok.inj h').symm.trans (Except.ok.inj h)
  | cons first lines =>
    cases hheader : Header.read? first with
    | none =>
      simp only [hlines, hheader] at h h'
      exact (Except.ok.inj h').symm.trans (Except.ok.inj h)
    | some header =>
      simp only [hlines, hheader] at h h'
      exact answer_eq_of_runLines_refused hcatalogue rfl h h'

/-- What a batch is refused for. -/
theorem refused_cases (h : generator.run text = .ok (.error diagnostic)) :
    (contentLines text = [] ∧ diagnostic = Refusal.noInput.diagnostic) ∨
      ∃ first lines, contentLines text = first :: lines ∧
        (diagnostic = (Refusal.missingHeader first).diagnostic ∨
          ∃ line ∈ lines, ∃ refusal : Refusal, refusal.IsOf line ∧
            diagnostic = refusal.diagnostic) := by
  rw [run] at h
  split at h
  case h_1 hlines => exact .inl ⟨hlines, (Except.error.inj (Except.ok.inj h)).symm⟩
  case h_2 first lines hlines =>
    refine .inr ⟨first, lines, hlines, ?_⟩
    split at h
    case h_1 => exact .inl (Except.error.inj (Except.ok.inj h)).symm
    case h_2 =>
      obtain ⟨line, hline, refusal, hrefuses, heq⟩ := exists_refused_of_runLines h
      have hof := hrefuses.isOf
      rw [ofList_trim_of_mem_contentLines (hlines ▸ List.mem_cons_of_mem _ hline)] at hof
      exact .inr ⟨line, hline, refusal, hof, heq⟩

/-! ### What is shown -/

theorem process_eq_of_run_refused (h : generator.run text = .ok (.error diagnostic)) :
    generator.process text = .ok (diagnostic.text ++ "\n") := by
  rw [process, h]
  rfl

end Generator

/-- What is shown of a diagnostic with a line at fault. -/
theorem Diagnostic.text_of_line_ne_empty (h : diagnostic.line ≠ "") :
    diagnostic.text =
      diagnostic.code ++ ": " ++ diagnostic.message ++ " in line: " ++ diagnostic.line := by
  have hline : diagnostic.line.isEmpty = false := by simpa using h
  rw [text, hline, if_neg Bool.false_ne_true, ← String.append_assoc]

theorem Diagnostic.isPrefix_text (diagnostic : Diagnostic) :
    diagnostic.code.toList <+: diagnostic.text.toList := by
  rw [text, String.append_assoc, String.append_assoc, String.toList_append]
  exact List.prefix_append ..

theorem Diagnostic.onOneLine_text (hcode : OnOneLine diagnostic.code.toList)
    (hmessage : OnOneLine diagnostic.message.toList) (hline : OnOneLine diagnostic.line.toList) :
    OnOneLine diagnostic.text.toList := by
  have hcolon : OnOneLine ": ".toList := by decide
  have hin : OnOneLine " in line: ".toList := by decide
  have hnothing : OnOneLine "".toList := by decide
  rw [text]
  split
  all_goals simp only [String.toList_append, onOneLine_append]
  · exact ⟨⟨⟨hcode, hcolon⟩, hmessage⟩, hnothing⟩
  · exact ⟨⟨⟨hcode, hcolon⟩, hmessage⟩, hin, hline⟩

theorem RefusalCode.onOneLine_name (code : RefusalCode) : OnOneLine code.name.toList := by
  cases code <;> decide

theorem RefusalCode.exists_name_eq_cons (code : RefusalCode) :
    ∃ c cs, code.name.toList = c :: cs ∧ c ≠ '/' := by
  cases code
  all_goals exact ⟨_, _, rfl, by decide⟩

namespace Generator

/-- The diagnostic of a batch begins with the name of a code, and so not as a report does. -/
theorem exists_toList_text_of_run (h : generator.run text = .ok (.error diagnostic)) :
    ∃ c cs, diagnostic.text.toList = c :: cs ∧ c ≠ '/' := by
  obtain ⟨refusal, rfl⟩ : ∃ refusal : Refusal, diagnostic = refusal.diagnostic := by
    obtain ⟨-, rfl⟩ | ⟨first, -, -, rfl | ⟨-, -, refusal, -, rfl⟩⟩ := refused_cases h
    · exact ⟨.noInput, rfl⟩
    · exact ⟨.missingHeader first, rfl⟩
    · exact ⟨refusal, rfl⟩
  obtain ⟨c, cs, hname, hc⟩ := refusal.code.exists_name_eq_cons
  obtain ⟨rest, htext⟩ := refusal.diagnostic.isPrefix_text
  exact ⟨c, cs ++ rest, by rw [← htext, Refusal.diagnostic, hname, List.cons_append], hc⟩

/-- What is shown of a refused batch has no end of a line in it, as no line that counts has one. -/
theorem onOneLine_text_of_run (h : generator.run text = .ok (.error diagnostic)) :
    OnOneLine diagnostic.text.toList := by
  obtain ⟨-, rfl⟩ | ⟨first, lines, hlines, hcause⟩ := refused_cases h
  · decide
  have honeLine : ∀ line ∈ first :: lines, OnOneLine line.toList :=
    fun _ hline ↦ onOneLine_of_mem_contentLines (hlines ▸ hline)
  obtain rfl | ⟨line, hline, refusal, hof, rfl⟩ := hcause
  · have hmessage : OnOneLine (Refusal.missingHeader first).message.toList := by
      rw [Refusal.message]
      decide
    exact Diagnostic.onOneLine_text (RefusalCode.onOneLine_name _) hmessage
      (honeLine first List.mem_cons_self)
  · have honeLine := honeLine line (List.mem_cons_of_mem _ hline)
    have hshown : refusal.diagnostic.line = line := hof.line_eq
    exact Diagnostic.onOneLine_text (RefusalCode.onOneLine_name _) (hof.onOneLine_message honeLine)
      (hshown ▸ honeLine)

/-- **A refused batch is one line**, under any catalogue, options and templates. The line shows one
of four codes: that of no input, where the text has no line that counts, and else three that come
with a line of the text, the first one that counts for a missing header and a later one otherwise.
Other templates and other engines, if they answer, have the same report. -/
theorem process_eq_of_refused (hrun : generator.run text = .ok (.error diagnostic)) :
    generator.process text = .ok (diagnostic.text ++ "\n") ∧
      ('\n' ∉ diagnostic.text.toList ∧ '\r' ∉ diagnostic.text.toList) ∧
      diagnostic.code ∈ ["NoInput", "MissingHeader", "GrammarMismatch", "UnsupportedType"] ∧
      (diagnostic.code = "NoInput" ↔ content (pieces text) = []) ∧
      (diagnostic.code = "NoInput" →
        diagnostic.text = diagnostic.code ++ ": " ++ diagnostic.message) ∧
      (diagnostic.code ≠ "NoInput" → diagnostic.line ≠ "" ∧ diagnostic.text =
        diagnostic.code ++ ": " ++ diagnostic.message ++ " in line: " ++ diagnostic.line) ∧
      (diagnostic.code = "MissingHeader" →
        (content (pieces text)).head? = some diagnostic.line) ∧
      (diagnostic.code = "GrammarMismatch" ∨ diagnostic.code = "UnsupportedType" →
        diagnostic.line ∈ (content (pieces text)).tail) ∧
      ∀ engine shelf other, { generator with engine, shelf }.run text = .ok (.error other) →
        { generator with engine, shelf }.process text = generator.process text := by
  have hprocess := process_eq_of_run_refused hrun
  have hother : ∀ engine shelf other,
      { generator with engine, shelf }.run text = .ok (.error other) →
        { generator with engine, shelf }.process text = generator.process text := by
    intro engine shelf other hrun'
    have hcatalogue : { generator with engine, shelf }.catalogue = generator.catalogue := rfl
    have hanswer := answer_eq_of_run_refused hcatalogue hrun hrun'
    rw [hprocess, process_eq_of_run_refused hrun', Except.error.inj hanswer]
  have honeLine := onOneLine_iff.1 (onOneLine_text_of_run hrun)
  rw [← contentLines_eq_content_pieces]
  obtain ⟨hlines, rfl⟩ | ⟨first, lines, hlines, hcause⟩ := refused_cases hrun
  · have hcode : Refusal.noInput.diagnostic.code = "NoInput" := rfl
    rw [hlines, hcode]
    exact ⟨hprocess, honeLine, by decide, by simp, fun _ ↦ rfl, fun h ↦ (h rfl).elim, by simp,
      by simp, hother⟩
  have hne : ∀ line ∈ first :: lines, line ≠ "" :=
    fun _ hline ↦ ne_empty_of_mem_contentLines (hlines ▸ hline)
  rw [hlines]
  obtain rfl | ⟨line, hline, refusal, hof, rfl⟩ := hcause
  · have hcode : (Refusal.missingHeader first).diagnostic.code = "MissingHeader" := rfl
    have hne := hne first List.mem_cons_self
    exact ⟨hprocess, honeLine, by simp [hcode], by simp [hcode], by simp [hcode],
      fun _ ↦ ⟨hne, Diagnostic.text_of_line_ne_empty hne⟩, fun _ ↦ rfl, by simp [hcode], hother⟩
  · have hcode : refusal.diagnostic.code = "GrammarMismatch" ∨
        refusal.diagnostic.code = "UnsupportedType" :=
      hof.code_eq.imp (congrArg RefusalCode.name) (congrArg RefusalCode.name)
    obtain rfl : refusal.diagnostic.line = line := hof.line_eq
    have hne := hne _ (List.mem_cons_of_mem _ hline)
    refine ⟨hprocess, honeLine, ?_, ?_, ?_, fun _ ↦ ⟨hne, Diagnostic.text_of_line_ne_empty hne⟩,
      ?_, fun _ ↦ hline, hother⟩
    all_goals rcases hcode with hcode | hcode <;> simp [hcode]

/-- Two lists whose names differ in blanks. No spelling stands for the first one. -/
def intLists : Catalogue where
  entries := ["QList<\nint >", "QList< int >"].map
    (Vocabulary.objectList · (Vocabulary.signed "int"))

/-- A type with other blanks than its entry is refused under the entry's name, and a template that
is at fault is never read. -/
theorem process_eq_of_refused_blanksInType :
    process { engine := Interpreter.engine, catalogue := intLists }
        "\r// PROP: QLabel\r\n// TODO: QList<\t\x0cint > sizes()\r// TODO:" =
      .ok ("UnsupportedType: type 'QList< int >' cannot be read as a property in line: " ++
        "// TODO: QList<\t\x0cint > sizes()\n") ∧
    process {
          engine := Interpreter.engine
          catalogue := intLists
          shelf := [("report.txt.j2", .ok "\x7b\x7b")] }
        "\r// PROP: QLabel\r\n// TODO: QList<\t\x0cint > sizes()\r// TODO:" =
      .ok ("UnsupportedType: type 'QList< int >' cannot be read as a property in line: " ++
        "// TODO: QList<\t\x0cint > sizes()\n") := by
  have hrun : run { engine := Interpreter.engine, catalogue := intLists }
      "\r// PROP: QLabel\r\n// TODO: QList<\t\x0cint > sizes()\r// TODO:" =
        .ok (.error ⟨"UnsupportedType", "type 'QList< int >' cannot be read as a property",
          "// TODO: QList<\t\x0cint > sizes()"⟩) := by
    rfl
  obtain ⟨hprocess, -, -, -, -, -, -, -, hother⟩ := process_eq_of_refused hrun
  exact ⟨hprocess, (hother _ [("report.txt.j2", .ok "\x7b\x7b")] _ (by rfl)).trans hprocess⟩

end Generator

end BindingGlue
