import BindingGlue.Generator
import BindingGlue.Naming
import BindingGlue.Signature.Basic

/-!
# Typed fragments

For one signature: a typed method that forwards to the native one, or a typed accessor of a
property. A method without a result sets a property, from its one argument; a method with a result
reads one and takes no argument.
-/

namespace BindingGlue.Typed

/-- The name of the typed method. -/
def name (options : Options) (method : String) : String :=
  Naming.stripLegacyPrefix options.legacyPrefix method

/-- The expression handed to the native layer for an argument. -/
def unwrap (options : Options) (argument : Argument) : String :=
  if argument.type.needsNativeUnwrap then argument.name ++ "." ++ options.nativeField
  else argument.name

/-- The parameters of a typed method. -/
def parameters (arguments : List Argument) : String :=
  ", ".intercalate (arguments.map fun argument ↦
    argument.name ++ ": " ++ argument.type.typedName)

/-- A typed method with one statement. -/
def layout (name : String) (arguments : List Argument) (result statement : String) : String :=
  "\n".intercalate [
    "    " ++ name ++ "(" ++ parameters arguments ++ "): " ++ result ++ " \x7b",
    "        " ++ statement,
    "    \x7d",
    ""]

/-- The call of the native method. -/
def nativeCall (options : Options) (signature : Signature) : String :=
  options.typedNative ++ "." ++ signature.name ++ "(" ++
    ", ".intercalate (signature.arguments.map (unwrap options)) ++ ")"

/-- The statement that hands the result of a call back. -/
def statement (generator : Generator) (type : TypeEntry) (call : String) :
    Except Fault String :=
  match type.packing with
  | .nothing => .ok (call ++ ";")
  | .numeric | .boolean | .string => .ok ("return " ++ call ++ ";")
  | .ownedObject => .ok ("return new " ++ type.typedName ++ "(" ++ call ++ ");")
  | .objectList => do
    let element ← generator.element type
    return "return " ++ call ++ ".map((item: any) => new " ++ element.typedName ++ "(item));"
  | .passThroughObject =>
    .ok ("return " ++ generator.options.wrapperCache.typedLookup ++ "(" ++ call ++ ") as " ++
      type.typedName ++ ";")

/-- The typed method that forwards to the native one. -/
def method (generator : Generator) (signature : Signature) : Except Fault String := do
  let call := nativeCall generator.options signature
  let statement ← statement generator signature.resultType call
  return layout (name generator.options signature.name) signature.arguments
    signature.resultType.typedName statement

/-- The typed method that sets a property. -/
def setter (options : Options) (signature : Signature) : Except Refusal String :=
  match signature.arguments with
  | [argument] =>
    .ok (layout (name options signature.name) [argument] "void"
      (options.propertySetter ++ "('" ++ Naming.setterKey signature.name ++ "', " ++
        unwrap options argument ++ ");"))
  | _ => .error (.grammarMismatch (.setterArity signature.name) signature.line)

/-- The typed method that reads a property. -/
def getter (options : Options) (signature : Signature) : Except Failure String :=
  let type := signature.resultType
  if !signature.arguments.isEmpty then
    .error (.refused (.grammarMismatch (.getterArity signature.name) signature.line))
  else match type.propertyGetter with
    | none => .error (.refused (.unsupportedType type.name .unreadable signature.line))
    | some conversion =>
      let value := options.propertyGetter ++ "('" ++ Naming.getterKey signature.name ++ "')"
      match Conversion.expand conversion value type.typedName options.genericValueConstructor with
      | .error fault => .error (.broken (.conversion fault))
      | .ok converted =>
        .ok (layout (name options signature.name) [] type.typedName ("return " ++ converted ++ ";"))

/-- The typed accessor of a property. -/
def property (options : Options) (signature : Signature) : Except Failure String :=
  if signature.hasResult then getter options signature
  else (setter options signature).mapError .refused

end BindingGlue.Typed
