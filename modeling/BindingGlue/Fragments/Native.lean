import BindingGlue.Generator
import BindingGlue.Signature.Basic

/-!
# Native fragments

For one signature: the declaration of the method in the wrapper class, its entry in the table of
exposed methods, and its body. The body takes the arguments out of the call, in order, calls the
method of the wrapped object, and packs the result. How an argument is taken out depends on the
category of its type alone, and how the result is packed on the packing alone.
-/

namespace BindingGlue.Native

/-- The lines that take the argument at an index out of a call. -/
def extraction (argument : Argument) (index : Nat) : Except Fault (List String) :=
  let name := argument.name
  let spelling := argument.type.nativeSpelling
  let wrap := argument.type.wrapText
  let slot := "info[" ++ index.repr ++ "]"
  match argument.type.category with
  | .void => .error (.voidArgument name)
  | .boolean => .ok [spelling ++ " " ++ name ++ " = " ++ slot ++ ".As<Napi::Boolean>().Value();"]
  | .signedInteger | .unsignedInteger | .floatingPoint =>
    .ok [spelling ++ " " ++ name ++ " = " ++ slot ++ ".As<Napi::Number>()." ++
      argument.type.accessorText ++ "();"]
  | .string =>
    .ok [
      "std::string " ++ name ++ "NapiText = " ++ slot ++ ".As<Napi::String>().Utf8Value();",
      spelling ++ " " ++ name ++ " = " ++ spelling ++ "::fromStdString(" ++ name ++ "NapiText);"]
  | .enumeration =>
    .ok [spelling ++ " " ++ name ++ " = static_cast<" ++ spelling ++ ">(" ++ slot ++
      ".As<Napi::Number>()." ++ argument.type.accessorText ++ "());"]
  | .object =>
    .ok [
      "Napi::Object " ++ name ++ "Object = " ++ slot ++ ".As<Napi::Object>();",
      wrap ++ "* " ++ name ++ "Wrap = Napi::ObjectWrap<" ++ wrap ++ ">::Unwrap(" ++ name ++
        "Object);",
      argument.type.baseNative ++ "* " ++ name ++ " = " ++ name ++
        "Wrap->getInternalInstance();"]

/-- The lines that take arguments out of a call, from an index on. -/
def extractions : Nat → List Argument → Except Fault (List String)
  | _, [] => .ok []
  | index, argument :: arguments => do
    let lines ← extraction argument index
    return lines ++ (← extractions (index + 1) arguments)

/-- The expression that the native method is called with for an argument. -/
def callArgument (argument : Argument) : String :=
  if argument.type.needsDereference then "*" ++ argument.name else argument.name

/-- The statement that calls the method; it declares `result` if there is one. -/
def invocation (options : Options) (signature : Signature) : String :=
  let call := options.nativeInstance ++ "->" ++ signature.name ++ "(" ++
    ", ".intercalate (signature.arguments.map callArgument) ++ ");"
  if signature.hasResult then signature.resultType.nativeSpelling ++ " result = " ++ call else call

/-- The expression for a new wrapper around a copy of an object. -/
def newWrapper (type : TypeEntry) (object : String) : String :=
  type.wrapText ++ "::constructor.New(\x7bNapi::External<" ++ type.baseNative ++
    ">::New(env, new " ++ type.baseNative ++ "(" ++ object ++ "))\x7d)"

/-- The lines that hand a result back. -/
def packing (generator : Generator) (type : TypeEntry) : Except Fault (List String) :=
  match type.packing with
  | .nothing => .ok ["return env.Null();"]
  | .numeric =>
    let value := if type.bitFlags then "static_cast<uint>(result)" else "result"
    .ok ["return Napi::Number::New(env, " ++ value ++ ");"]
  | .boolean => .ok ["return Napi::Boolean::New(env, result);"]
  | .string => .ok ["return Napi::String::New(env, result.toStdString());"]
  | .ownedObject =>
    .ok ["auto resultInstance = " ++ newWrapper type "result" ++ ";", "return resultInstance;"]
  | .objectList => do
    let element ← generator.element type
    return [
      "Napi::Array resultArrayNapi = Napi::Array::New(env, result.size());",
      "for (uint32_t i = 0; i < static_cast<uint32_t>(result.size()); i++) \x7b",
      "  resultArrayNapi[i] = " ++ newWrapper element "result[i]" ++ ";",
      "\x7d",
      "return resultArrayNapi;"]
  | .passThroughObject =>
    .ok [
      "if (result) \x7b",
      "  return " ++ generator.options.wrapperCache.nativeLookup ++
        "(env, static_cast<QObject*>(result));",
      "\x7d",
      "return env.Null();"]

/-- The declaration of the method in the wrapper class. -/
def declaration (signature : Signature) : String :=
  "  Napi::Value " ++ signature.name ++ "(const Napi::CallbackInfo& info);"

/-- The entry of the method in the table of exposed methods. -/
def registration (options : Options) (className : String) (signature : Signature) : String :=
  "    InstanceMethod(\"" ++ signature.name ++ "\", &" ++ options.wrapperName className ++ "::" ++
    signature.name ++ "),"

/-- The values that the template of a body is filled with. -/
def bodyValues (generator : Generator) (className : String) (signature : Signature) :
    Except Fault (List (String × Template.Value)) := do
  let extraction ← extractions 0 signature.arguments
  let packing ← packing generator signature.resultType
  return [
    ("wrapper", .text (generator.options.wrapperName className)),
    ("name", .text signature.name),
    ("argc", .count signature.arguments.length),
    ("extraction", .list (extraction.map .text)),
    ("invocation", .text (invocation generator.options signature)),
    ("packing", .list (packing.map .text))]

/-- The body of the method. -/
def body (generator : Generator) (className : String) (signature : Signature) :
    Except Fault String := do
  let values ← bodyValues generator className signature
  generator.fillTemplate generator.options.nativeBodyTemplate values

end BindingGlue.Native
