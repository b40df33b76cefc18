import BindingGlue.Batch.Report
import BindingGlue.Batch.Trace
import BindingGlue.CommandLine.Files

/-!
# Running the command line

What the program does once its settings are read and its directory of templates is looked up: it
processes the batch on its standard input and writes the report. Its exit code says whether the
batch was accepted, was refused, or broke the generator, in which case nothing is written. The log
is a text beside the report, and the report does not depend on how it is shown; where the file of
the log leads to the standard output, the two arrive there one after the other.
-/

namespace BindingGlue.CommandLine

open Log (Event)

/-- What a run of the program leaves. -/
structure Outcome where
  /-- The exit code. -/
  exitCode : Nat
  /-- The text that is written to the standard output. -/
  output : String
  /-- The text of the log. -/
  log : String
  deriving DecidableEq

/-- What arrives where the standard output goes. Records are written to the file of the log as they
come up, and the report is written at the end. -/
def Outcome.received (outcome : Outcome) (file : Option LogFile) : String :=
  if file.any (·.isOutput) then outcome.log ++ outcome.output else outcome.output

/-- The generator that a directory of templates makes, if it can be used. -/
def TemplatesDirectory.generator? (engine : Template.Engine) :
    TemplatesDirectory → Option Generator
  | standard => some { engine }
  | found shelf => some { engine, shelf }
  | missing _ => some { engine }
  | unusable => none

/-- The events of looking up a directory of templates. -/
def TemplatesDirectory.trace : TemplatesDirectory → List Event
  | missing path => [.templatesMissing path]
  | _ => []

/-- The exit code and the text for the standard output of a batch; nothing comes of a batch that
breaks the generator. -/
def answer? (generator : Generator) (input : String) : Option (Nat × String) := do
  let result ← (generator.run input).toOption
  let report ← (generator.render result).toOption
  return (if result.toBool then 0 else 1, report)

/-- Runs the program on its standard input. -/
def execute (engine : Template.Engine) (setup : Log.Setup) (directory : TemplatesDirectory)
    (input : String) : Outcome :=
  let (answer, trace) := match directory.generator? engine with
    | some generator => (answer? generator input, directory.trace ++ generator.trace input)
    | none => (none, [])
  match answer with
  | some (exitCode, output) => { exitCode, output, log := setup.text (trace.map Event.record) }
  | none =>
    { exitCode := 2, output := "", log := setup.text ((trace ++ [Event.broken]).map Event.record) }

end BindingGlue.CommandLine
