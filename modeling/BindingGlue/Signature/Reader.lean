import BindingGlue.Refusal
import BindingGlue.Signature.Basic
import BindingGlue.Signature.Shape
import BindingGlue.Types.Catalogue

/-!
# Reading signatures

`Signature.read` takes a line apart and looks each type up in a catalogue. It refuses the line at
the first fault: its shape, then its result type, then its arguments from left to right. An argument
that is a lone `void`, or has marks and no name, is left out; what follows an equals sign is a
default value and is ignored.
-/

namespace BindingGlue.Signature

open Text

/-- The declaration in one part of an argument list: the part up to its default value, trimmed. -/
def declarationOf (part : List Char) : List Char :=
  trim (part.takeWhile (· != '='))

/-- The fault of a declaration that is no argument. -/
def argumentFault (declaration : List Char) : GrammarFault :=
  if !declaration.isEmpty && !declaration.contains ' ' then
    .unnamedArgument (String.ofList declaration)
  else .malformedArgument (String.ofList declaration)

/-- Reads one part of an argument list; nothing comes of a lone `void` or an unnamed argument. -/
def readPart (catalogue : Catalogue) (line : String) (part : List Char) :
    Except Refusal (Option Argument) :=
  let declaration := declarationOf part
  if declaration = "void".toList then .ok none
  else match readArgument? declaration with
    | none => .error (.grammarMismatch (argumentFault declaration) line)
    | some (spelling, name) =>
      match catalogue.argumentType? spelling with
      | none => .error (.unsupportedType spelling .unknown line)
      | some type => .ok (if name.isEmpty then none else some { type, name })

/-- Reads the parts of an argument list in order, after arguments with the names `seen`. -/
def readParts (catalogue : Catalogue) (line : String) :
    List String → List (List Char) → Except Refusal (List Argument)
  | _, [] => .ok []
  | seen, part :: parts => do
    match ← readPart catalogue line part with
    | none => readParts catalogue line seen parts
    | some argument =>
      if seen.contains argument.name then
        throw (.grammarMismatch (.duplicateArgument argument.name) line)
      else
        let others ← readParts catalogue line (argument.name :: seen) parts
        return argument :: others

/-- Reads what stands between the parentheses of a line. -/
def readArguments (catalogue : Catalogue) (line text : String) : Except Refusal (List Argument) :=
  let inner := trim text.toList
  if inner.isEmpty || inner = "void".toList then .ok []
  else readParts catalogue line [] (inner.splitOn ',')

/-- Reads a signature line. -/
def read (catalogue : Catalogue) (text : String) : Except Refusal Signature :=
  let trimmed := trim text.toList
  let line := String.ofList trimmed
  match readLine? trimmed with
  | none => .error (.grammarMismatch .shape line)
  | some parts =>
    match catalogue.resultType? parts.resultType with
    | none => .error (.unsupportedType parts.resultType .unknown line)
    | some resultType => do
      let arguments ← readArguments catalogue line parts.arguments
      return { name := parts.name, resultType, arguments, isVirtual := parts.isVirtual, line }

end BindingGlue.Signature
