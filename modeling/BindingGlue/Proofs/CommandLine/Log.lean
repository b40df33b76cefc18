import BindingGlue.Proofs.Batch.Trace
import BindingGlue.Proofs.CommandLine.Program
import BindingGlue.Proofs.Log.Layout

/-!
# What the program logs

Without arguments the log shows the warnings and what is graver (`Log.Setup.text_of_warning`), one
line for each record. Of the trace of a batch that is the refusal of one of its lines and nothing
else, so that the log is empty or repeats the report behind a few words. A batch that is refused for
its first line, or for having none, is reported on standard output alone.
-/

namespace BindingGlue

open Log (Event Layout Setup Level)

/-! ### The log of a trace -/

namespace Log

variable {setup : Setup}

/-- A log of the warnings and what is graver shows the grave events of a trace. -/
theorem Setup.text_of_warning (hlevel : setup.level = Level.warning)
    (hpropagates : setup.propagates = true) (events : List Event) :
    setup.text (events.map Event.record) =
      setup.text ((events.filter (·.isGrave)).map Event.record) := by
  have hzero : (0 : Level) < Level.warning := by decide
  have hshows : setup.shows ∘ Event.record = (·.isGrave) := by
    funext event
    have hpositive : Level.warning ≤ event.record.level → 0 < event.record.level :=
      Int.lt_of_lt_of_le hzero
    rw [Function.comp_apply, Setup.shows, hlevel, hpropagates, Event.isGrave, Bool.true_and,
      ← Bool.decide_and]
    exact decide_eq_decide.2 (and_iff_right_of_imp hpositive)
  rw [Setup.text, Setup.text, List.filter_map, List.filter_map, hshows, List.filter_filter]
  simp only [Bool.and_self]

/-- The log without arguments. -/
def Setup.standard : Setup where
  level := Level.warning
  layout := .standard

/-- The line of a refusal in the log. -/
theorem Setup.text_aborting (diagnostic : Diagnostic) :
    standard.text [(Event.aborting diagnostic).record] =
      "WARNING: Aborting batch: " ++ (diagnostic.text ++ "\n") := by
  have hline : Layout.standard.line? (Event.aborting diagnostic).record =
      some ("WARNING" ++ ": " ++ ("Aborting batch: " ++ diagnostic.text) ++ "\n") :=
    Layout.line?_standard rfl
  have hshown : [(Event.aborting diagnostic).record].filter standard.shows =
      [(Event.aborting diagnostic).record] :=
    rfl
  have hlayout : standard.layout = .standard := rfl
  rw [text, hshown, hlayout, List.filterMap_cons_some hline, List.filterMap_nil]
  apply String.toList_injective
  simp

end Log

namespace CommandLine

open Generator (HasHeader reports)

variable {raw : Template.Engine} {files : FileSystem Id} {directory : TemplatesDirectory}
  {generator : Generator} {answer : Except Diagnostic Output} {input report : String}

/-! ### The log of a run -/

/-- The log of a batch that is answered shows the trace. -/
theorem log_execute_of_answer (setup : Setup)
    (hdirectory : directory.generator? raw = some generator)
    (hrun : generator.run input = .ok answer) (hrender : generator.render answer = .ok report) :
    (execute raw setup directory input).log =
      setup.text ((directory.trace ++ generator.trace input).map Event.record) := by
  rw [execute, hdirectory]
  simp only [answer?_eq_some hrun hrender]

namespace FileSystem

/-- Without arguments nothing is asked of the file system. -/
theorem run_program_noArguments (files : FileSystem Id) (raw : Template.Engine) (input : String) :
    (files.program raw [] input).run = .ok (execute raw .standard .standard input, none) := by
  rfl

/-- **What is logged without arguments.** The program comes to its input whatever the file system
is. Nothing is logged of a batch that is accepted. A batch that is refused for one of the lines
behind its header is logged in one line, which repeats the report. One without a header is refused
for that, and nothing is logged of it. -/
theorem program_noArguments_log (engine : Template.DocumentedEngine) (files : FileSystem Id)
    (input : String) :
    ∃ outcome, (files.program engine.toEngine [] input).run = .ok (outcome, none) ∧
      (outcome.exitCode = 0 ∧
          (∃ output, Generator.run (.standard engine) input = .ok (.ok output)) ∧
          HasHeader input ∧ outcome.log = "" ∨
        outcome.exitCode = 1 ∧ ∃ diagnostic,
          Generator.run (.standard engine) input = .ok (.error diagnostic) ∧
          outcome.output = diagnostic.text ++ "\n" ∧
          (HasHeader input ∧ diagnostic.code ∈ ["GrammarMismatch", "UnsupportedType"] ∧
              outcome.log = "WARNING: Aborting batch: " ++ outcome.output ∨
            ¬ HasHeader input ∧ diagnostic.code ∈ ["NoInput", "MissingHeader"] ∧
              outcome.log = "")) := by
  obtain ⟨answer, hrun⟩ := Generator.exists_run_standard engine input
  obtain ⟨report, hrender⟩ :=
    Generator.exists_render_eq_ok (Generator.usesStandardTemplates_standard engine) answer
  have hdirectory : TemplatesDirectory.standard.generator? engine.toEngine =
      some (.standard engine) := rfl
  obtain ⟨hcode, houtput⟩ := execute_of_answer Setup.standard hdirectory hrun hrender
  have hlog : (execute engine.toEngine Setup.standard .standard input).log =
      Setup.standard.text ((Generator.trace (.standard engine) input).map Event.record) :=
    log_execute_of_answer Setup.standard hdirectory hrun hrender
  refine ⟨_, run_program_noArguments files engine.toEngine input, ?_⟩
  by_cases hheader : HasHeader input
  case neg =>
    obtain ⟨htrace, diagnostic, hrefused, hmissing⟩ := Generator.refused_of_not_hasHeader _ hheader
    obtain rfl := Except.ok.inj (hrun.symm.trans hrefused)
    rw [htrace] at hlog
    exact .inr ⟨hcode, diagnostic, hrun, houtput.trans (Except.ok.inj hrender).symm,
      .inr ⟨hheader, hmissing, hlog⟩⟩
  case pos =>
    rw [Setup.text_of_warning rfl rfl, Generator.filter_trace_of_hasHeader hheader, hrun] at hlog
    cases answer with
    | ok output => exact .inl ⟨hcode, ⟨output, hrun⟩, hheader, hlog⟩
    | error diagnostic =>
      obtain rfl := Except.ok.inj hrender
      refine .inr ⟨hcode, diagnostic, hrun, houtput,
        .inl ⟨hheader, Generator.code_of_hasHeader hheader hrun, ?_⟩⟩
      rw [houtput, hlog]
      exact Setup.text_aborting diagnostic

/-- A file system in which nothing is. -/
def bare : FileSystem Id where
  workingDirectory := "/"
  isDirectory? _ := none
  shelf _ := []
  isOutput _ := false

/-- So not every refused batch is logged: one without any line is not. -/
theorem program_refused_unlogged :
    ¬ ∀ (files : FileSystem Id) (input : String) (outcome : Outcome) (file : Option LogFile),
      (files.program Interpreter.engine [] input).run = .ok (outcome, file) →
        (outcome.exitCode = 1 → outcome.log = "WARNING: Aborting batch: " ++ outcome.output) ∧
          (outcome.exitCode = 0 → outcome.log = "") := by
  intro h
  have hprogram : (bare.program Interpreter.engine [] "").run =
      .ok (⟨1, "NoInput: input is empty\n", ""⟩, none) := by
    decide
  exact absurd ((h bare "" _ _ hprogram).1 rfl) (by decide)

end FileSystem

end CommandLine

end BindingGlue
