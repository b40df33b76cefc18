import BindingGlue.Batch.Report

/-!
# Sessions

A session works on one output, step by step. A step may fail, and the session then goes on with the
output as that step left it.
-/

namespace BindingGlue.Session

/-- A step of a session. -/
inductive Step where
  /-- Generates the fragments of a line and, if it `adds` them, keeps them in the output. -/
  | generate (className : String) (mode : Mode) (line : String) (adds : Bool)
  /-- Expands a line, whose fragments are not kept. -/
  | expand (className : String) (mode : Mode) (line : String)
  /-- Reports on the output so far. -/
  | report
  deriving DecidableEq

/-- What a step answers. -/
inductive Answer where
  /-- The fragments of a line. -/
  | fragments (fragments : Fragments)
  /-- The line is refused. -/
  | refused (diagnostic : Diagnostic)
  /-- The report on an output. -/
  | report (text : String)
  deriving DecidableEq

/-- Performs a step on the output of the session. -/
def perform (generator : Generator) : Step → ExceptT Failure (StateM Output) Answer
  | .generate className mode line adds => do
    match ← ofExcept ((generator.generate className mode line).mapError Failure.broken) with
    | .error diagnostic => return .refused diagnostic
    | .ok fragments =>
      if adds then
        modify fun output ↦ output.add fragments
      return .fragments fragments
  | .expand className mode line => do
    return .fragments (← ofExcept (generator.expand className mode line))
  | .report => do
    return .report (← ofExcept ((generator.report (← get)).mapError Failure.broken))

variable {generator : Generator} {output : Output}

/-- A step that generates a line, as one equation. -/
theorem run_perform_generate (className : String) (mode : Mode) (line : String) (adds : Bool) :
    (perform generator (.generate className mode line adds)).run.run output =
      match generator.generate className mode line with
      | .error fault => (.error (.broken fault), output)
      | .ok (.error diagnostic) => (.ok (.refused diagnostic), output)
      | .ok (.ok fragments) =>
        (.ok (.fragments fragments), if adds then output.add fragments else output) := by
  rw [perform]
  rcases generator.generate className mode line with fault | diagnostic | fragments
  · rfl
  · rfl
  · cases adds <;> rfl

/-- An expansion leaves the output as it was, and so does its failure. -/
theorem run_perform_expand (className : String) (mode : Mode) (line : String) :
    (perform generator (.expand className mode line)).run.run output =
      ((generator.expand className mode line).map .fragments, output) := by
  rw [perform]
  cases generator.expand className mode line <;> rfl

/-- A report leaves the output as it was, and so does its failure. -/
theorem run_perform_report :
    (perform generator .report).run.run output =
      (((generator.report output).map .report).mapError .broken, output) := by
  -- the output that the step reads is the one it is performed on
  have hrun : (perform generator .report).run.run output =
      ((ofExcept ((generator.report output).mapError Failure.broken) >>=
        fun text ↦ pure (.report text) : ExceptT Failure (StateM Output) Answer).run.run output) :=
    rfl
  rw [hrun]
  cases generator.report output <;> rfl

/-- Performs steps one after the other: every step has its answer or its failure. -/
def run (generator : Generator) (steps : List Step) :
    StateM Output (List (Except Failure Answer)) :=
  steps.mapM fun step ↦ (perform generator step).run

end BindingGlue.Session
