import BindingGlue.Batch.Trace
import BindingGlue.Proofs.Batch.Refused

/-!
# What a run reports

The events of a run are graded by the levels of their records. Reading a line and generating its
fragments are details (`level_of_mem_lineTrace`), and so is what is said of an accepted batch. Along
the lines behind a header the only event as grave as a warning is the refusal that ends the run, and
it is the run's own answer (`filter_linesTrace`).

A text without a header is refused before its lines are come to. Its trace is empty, so that nothing
is reported of it (`refused_of_not_hasHeader`).
-/

namespace BindingGlue

open Text
open Log (Event)

/-- Whether the record of an event has the level of warnings or a graver one. -/
def Log.Event.isGrave (event : Event) : Bool :=
  Log.Level.warning ≤ event.record.level

namespace Generator

variable {generator : Generator} {className line text : String} {mode : Mode} {header : Header}
  {signature : Signature} {event : Event} {lines : List String} {output : Output}
  {diagnostic : Diagnostic}

/-! ### Lines -/

theorem level_of_mem_signatureTrace
    (h : event ∈ generator.signatureTrace className mode signature) : event.record.level = 10 := by
  cases mode with
  | operation =>
    rw [signatureTrace] at h
    split at h
    case h_1 =>
      obtain rfl := List.mem_singleton.1 h
      rfl
    case h_2 => cases h
  | property =>
    rw [signatureTrace] at h
    split at h
    case h_1 => cases h
    case h_2 =>
      split at h
      all_goals
        obtain rfl := List.mem_singleton.1 h
        rfl

/-- All that is recorded of a line by itself is a detail. -/
theorem level_of_mem_lineTrace (h : event ∈ generator.lineTrace className mode line) :
    event.record.level = 10 := by
  rw [lineTrace] at h
  split at h
  case h_1 => cases h
  case h_2 signature _ =>
    rcases List.mem_cons.1 h with rfl | h
    · rfl
    · exact level_of_mem_signatureTrace h

theorem filter_lineTrace (generator : Generator) (className : String) (mode : Mode)
    (line : String) : (generator.lineTrace className mode line).filter (·.isGrave) = [] := by
  rw [List.filter_eq_nil_iff]
  intro event hevent
  rw [Event.isGrave, level_of_mem_lineTrace hevent]
  decide

/-- What is reported of an answer: its diagnostic, if there is one. -/
def reports : Except Fault (Except Diagnostic Output) → List Event
  | .ok (.error diagnostic) => [.aborting diagnostic]
  | _ => []

/-- Along the lines behind a header the answer is reported, and nothing else. -/
theorem filter_linesTrace (hclass : output.className = header.className)
    (hmode : output.mode = header.mode) (count : Nat) (lines : List String) :
    (generator.linesTrace header count lines).filter (·.isGrave) =
      reports (generator.runLines output lines) := by
  -- an accepted line changes the output and the count, but neither the class nor the mode
  induction lines generalizing output count with
  | nil => rfl
  | cons line lines ih =>
    have hgenerate : generator.generate output.className output.mode line =
        generator.generate header.className header.mode line := by
      rw [hclass, hmode]
    rw [linesTrace, List.filter_append, filter_lineTrace, List.nil_append]
    rcases hline : generator.generate header.className header.mode line with
      fault | diagnostic | fragment
    · rw [runLines_cons_of_fault (hgenerate.trans hline)]
      rfl
    · rw [runLines_cons_of_refused (hgenerate.trans hline)]
      rfl
    · rw [runLines_cons_of_accepted (hgenerate.trans hline)]
      have hclass : (output.add fragment).className = header.className := hclass
      have hmode : (output.add fragment).mode = header.mode := hmode
      exact ih hclass hmode (count + 1)

/-! ### Runs -/

/-- The first line of a text that counts is a header. -/
def HasHeader (text : String) : Prop :=
  ∃ first ∈ (contentLines text).head?, ∃ header : Header, header.Fits first.toList

theorem exists_of_hasHeader (h : HasHeader text) :
    ∃ first lines header, contentLines text = first :: lines ∧
      Header.read? first = some header := by
  obtain ⟨first, hfirst, header, hheader⟩ := h
  obtain ⟨lines, hlines⟩ := List.head?_eq_some_iff.1 hfirst
  exact ⟨first, lines, header, hlines, read?_first_eq_some hlines hheader⟩

/-- Of a text with a header the answer is reported. -/
theorem filter_trace_of_hasHeader (h : HasHeader text) :
    (generator.trace text).filter (·.isGrave) = reports (generator.run text) := by
  obtain ⟨first, lines, header, hlines, hread⟩ := exists_of_hasHeader h
  have hdetail : (Event.header header.className header.mode).isGrave = false := rfl
  rw [trace, run, hlines]
  simp only [hread]
  rw [List.filter_cons_of_neg (by simp [hdetail])]
  exact filter_linesTrace rfl rfl 0 lines

/-- If it is refused, it is for one of the lines behind the header. -/
theorem code_of_hasHeader (h : HasHeader text)
    (hrun : generator.run text = .ok (.error diagnostic)) :
    diagnostic.code ∈ ["GrammarMismatch", "UnsupportedType"] := by
  obtain ⟨first, lines, header, hlines, hread⟩ := exists_of_hasHeader h
  rw [run, hlines] at hrun
  simp only [hread] at hrun
  obtain ⟨line, -, refusal, hrefuses, rfl⟩ := exists_refused_of_runLines hrun
  rw [List.mem_pair]
  exact hrefuses.isOf.code_eq.imp (congrArg RefusalCode.name) (congrArg RefusalCode.name)

/-- A text without a header is refused for that, and nothing is recorded of it. -/
theorem refused_of_not_hasHeader (generator : Generator) (h : ¬ HasHeader text) :
    generator.trace text = [] ∧ ∃ diagnostic, generator.run text = .ok (.error diagnostic) ∧
      diagnostic.code ∈ ["NoInput", "MissingHeader"] := by
  rw [trace, run]
  cases hlines : contentLines text with
  | nil => exact ⟨rfl, _, rfl, by decide⟩
  | cons first lines =>
    have hread : Header.read? first = none := by
      refine read?_first_eq_none hlines fun header hheader ↦ h ⟨first, ?_, header, hheader⟩
      rw [hlines]
      rfl
    simp only [hread]
    exact ⟨trivial, _, rfl, List.mem_pair.2 (.inr rfl)⟩

end Generator

end BindingGlue
