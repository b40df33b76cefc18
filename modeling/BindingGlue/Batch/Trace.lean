import BindingGlue.Batch.Run
import BindingGlue.Log.Event

/-!
# Traces

The trace of a run lists its events in the order in which they happen. It is a function of the same
input as the run and takes every decision from the run's own steps, so it cannot tell a different
story.
-/

namespace BindingGlue.Generator

open Log (Event)

/-- The events of the generation for a signature. -/
def signatureTrace (generator : Generator) (className : String) (mode : Mode)
    (signature : Signature) : List Event :=
  match mode with
  | .operation =>
    match Native.bodyValues generator className signature with
    | .ok _ => [.nativeBody className signature.name]
    | .error _ => []
  | .property =>
    match Typed.property generator.options signature with
    | .error _ => []
    | .ok _ =>
      if signature.hasResult then
        [.propertyGetter signature.name (Naming.getterKey signature.name)]
      else [.propertySetter signature.name (Naming.setterKey signature.name)]

/-- The events of the generation for a line. -/
def lineTrace (generator : Generator) (className : String) (mode : Mode) (line : String) :
    List Event :=
  match Signature.read generator.catalogue line with
  | .error _ => []
  | .ok signature => .parsed signature :: generator.signatureTrace className mode signature

/-- The events of the lines that follow a header, after `count` lines of them. -/
def linesTrace (generator : Generator) (header : Header) (count : Nat) : List String → List Event
  | [] => [.generated count header.className]
  | line :: lines =>
    generator.lineTrace header.className header.mode line ++
      match generator.generate header.className header.mode line with
      | .error _ => []
      | .ok (.error diagnostic) => [.aborting diagnostic]
      | .ok (.ok _) => generator.linesTrace header (count + 1) lines

/-- The events of a run. A text without a header has none. -/
def trace (generator : Generator) (text : String) : List Event :=
  match Text.contentLines text with
  | [] => []
  | first :: lines =>
    match Header.read? first with
    | none => []
    | some header =>
      .header header.className header.mode :: generator.linesTrace header 0 lines

end BindingGlue.Generator
