import BindingGlue.Batch.Header
import BindingGlue.Batch.Output
import BindingGlue.Fragments.Native
import BindingGlue.Fragments.Typed
import BindingGlue.Signature.Reader
import BindingGlue.Text.Lines

/-!
# Runs

A batch is a text whose first line is a header and whose further lines are signatures; blank lines
do not count. The lines are processed in order, and the first one that is refused ends the run: its
diagnostic is then all there is. A fault of the generator ends the run without an answer.
-/

namespace BindingGlue.Generator

/-- The fragments of a signature in operation mode. -/
def operationFragments (generator : Generator) (className : String) (signature : Signature) :
    Except Fault Fragments := do
  let nativeBody ← Native.body generator className signature
  let typed ← Typed.method generator signature
  return {
    typed
    declaration := some (Native.declaration signature)
    registration := some (Native.registration generator.options className signature)
    nativeBody := some nativeBody }

/-- The fragments of a signature. -/
def fragments (generator : Generator) (className : String) (mode : Mode) (signature : Signature) :
    Except Failure Fragments :=
  match mode with
  | .operation => (generator.operationFragments className signature).mapError .broken
  | .property => (Typed.property generator.options signature).map fun typed ↦ { typed }

/-- The fragments of a signature line. -/
def expand (generator : Generator) (className : String) (mode : Mode) (line : String) :
    Except Failure Fragments := do
  let signature ← (Signature.read generator.catalogue line).mapError .refused
  generator.fragments className mode signature

/-- An outcome in which a refusal is an answer, shown by its diagnostic. -/
def answered {α : Type} : Except Failure α → Except Fault (Except Diagnostic α)
  | .ok value => .ok (.ok value)
  | .error (.refused refusal) => .ok (.error refusal.diagnostic)
  | .error (.broken fault) => .error fault

/-- The fragments of a signature line, or the diagnostic of its refusal. -/
def generate (generator : Generator) (className : String) (mode : Mode) (line : String) :
    Except Fault (Except Diagnostic Fragments) :=
  answered (generator.expand className mode line)

/-- Adds the fragments of lines to an output, up to the first line that is refused. -/
def runLines (generator : Generator) (output : Output) :
    List String → Except Fault (Except Diagnostic Output)
  | [] => .ok (.ok output)
  | line :: lines => do
    match ← generator.generate output.className output.mode line with
    | .ok fragments => generator.runLines (output.add fragments) lines
    | .error diagnostic => return .error diagnostic

/-- Processes a batch. -/
def run (generator : Generator) (text : String) : Except Fault (Except Diagnostic Output) :=
  match Text.contentLines text with
  | [] => .ok (.error Refusal.noInput.diagnostic)
  | first :: lines =>
    match Header.read? first with
    | none => .ok (.error (Refusal.missingHeader first).diagnostic)
    | some header =>
      generator.runLines { className := header.className, mode := header.mode } lines

end BindingGlue.Generator
