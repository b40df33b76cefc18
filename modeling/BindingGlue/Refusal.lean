import BindingGlue.Text.Quoted

/-!
# Refused input

A batch is refused for one of four reasons, each with its code. `Refusal` tells the causes apart,
and its text is the one line that is shown for a refused batch: the code, the message, and the line
of input at fault.
-/

namespace BindingGlue

/-- The closed set of codes under which input is refused. -/
inductive RefusalCode where
  | noInput
  | missingHeader
  | grammarMismatch
  | unsupportedType
  deriving DecidableEq

namespace RefusalCode

/-- The name of the code. -/
def name : RefusalCode → String
  | noInput => "NoInput"
  | missingHeader => "MissingHeader"
  | grammarMismatch => "GrammarMismatch"
  | unsupportedType => "UnsupportedType"

/-- Every code. -/
def all : List RefusalCode :=
  [noInput, missingHeader, grammarMismatch, unsupportedType]

/-- The code of that name; any other name is an error with its own message. -/
def ofName (name : String) : Except String RefusalCode :=
  match all.find? (·.name == name) with
  | some code => .ok code
  | none => .error ("Unknown generation error code: " ++ Text.quoted name)

/-- Reading a name gives the code back. -/
@[simp]
theorem ofName_name (code : RefusalCode) : ofName code.name = .ok code := by
  cases code <;> rfl

end RefusalCode

/-- What is wrong with a line that does not fit the grammar. -/
inductive GrammarFault where
  /-- The line is no signature. -/
  | shape
  /-- An argument is a single word. -/
  | unnamedArgument (declaration : String)
  /-- An argument is neither a single word nor a type and a name. -/
  | malformedArgument (declaration : String)
  /-- Two arguments have one name. -/
  | duplicateArgument (name : String)
  /-- A property is set with no value or with several. -/
  | setterArity (method : String)
  /-- A property is read with arguments. -/
  | getterArity (method : String)
  /-- A fault that is described by its text. -/
  | described (message : String)
  deriving DecidableEq

/-- The message of a fault. -/
def GrammarFault.message : GrammarFault → String
  | shape => "line does not match the signature grammar"
  | unnamedArgument declaration => "argument '" ++ declaration ++ "' has no name"
  | malformedArgument declaration => "malformed argument '" ++ declaration ++ "'"
  | duplicateArgument name => "duplicate argument name '" ++ name ++ "'"
  | setterArity method => "property setter '" ++ method ++ "' must take exactly one argument"
  | getterArity method => "property getter '" ++ method ++ "' must not take arguments"
  | described message => message

/-- Why a type cannot stand where it does. -/
inductive TypeFault where
  /-- No type has the name. -/
  | unknown
  /-- Values of the type cannot be read as a property. -/
  | unreadable
  /-- A fault that is described by its text; the empty text describes nothing. -/
  | described (reason : String)
  deriving DecidableEq

/-- The message of a fault of the type written as `token`. -/
def TypeFault.message (token : String) : TypeFault → String
  | unknown => "unsupported type '" ++ token ++ "'"
  | unreadable => "type '" ++ token ++ "' cannot be read as a property"
  | described reason => if reason.isEmpty then "unsupported type '" ++ token ++ "'" else reason

/-- Why input is refused. -/
inductive Refusal where
  /-- There is no line that is not blank. -/
  | noInput
  /-- The first line is no header. -/
  | missingHeader (line : String)
  /-- A line does not fit the grammar. -/
  | grammarMismatch (fault : GrammarFault) (line : String)
  /-- A type is unknown or cannot stand where it does. -/
  | unsupportedType (token : String) (fault : TypeFault) (line : String)
  /-- A refusal by a further check, under one of the codes. -/
  | custom (code : RefusalCode) (message line : String)
  deriving DecidableEq

/-- What is shown of a refusal. -/
structure Diagnostic where
  /-- The name of the code. -/
  code : String
  /-- What is wrong. -/
  message : String
  /-- The line of input at fault, or nothing. -/
  line : String
  deriving DecidableEq

/-- The diagnostic as one line. -/
def Diagnostic.text (diagnostic : Diagnostic) : String :=
  diagnostic.code ++ ": " ++ diagnostic.message ++
    if diagnostic.line.isEmpty then "" else " in line: " ++ diagnostic.line

namespace Refusal

/-- The code of a refusal. -/
def code : Refusal → RefusalCode
  | noInput => .noInput
  | missingHeader _ => .missingHeader
  | grammarMismatch _ _ => .grammarMismatch
  | unsupportedType _ _ _ => .unsupportedType
  | custom code _ _ => code

/-- The message of a refusal. -/
def message : Refusal → String
  | noInput => "input is empty"
  | missingHeader _ => "expected a '// CLASS: <Name>' or '// PROP: <Name>' header"
  | grammarMismatch fault _ => fault.message
  | unsupportedType token fault _ => fault.message token
  | custom _ message _ => message

/-- The line of input at fault. -/
def line : Refusal → String
  | noInput => ""
  | missingHeader line => line
  | grammarMismatch _ line => line
  | unsupportedType _ _ line => line
  | custom _ _ line => line

/-- Whether the input does not fit the grammar; a missing header is such a case. -/
def isGrammarMismatch : Refusal → Bool
  | missingHeader _ => true
  | grammarMismatch _ _ => true
  | _ => false

/-- What is shown of the refusal. -/
def diagnostic (refusal : Refusal) : Diagnostic where
  code := refusal.code.name
  message := refusal.message
  line := refusal.line

end Refusal

end BindingGlue
