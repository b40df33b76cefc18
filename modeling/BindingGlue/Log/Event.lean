import BindingGlue.Fragments.Basic
import BindingGlue.Refusal
import BindingGlue.Log.Layout
import BindingGlue.Signature.Basic

/-!
# Events

What is worth a record while input is processed, with the level, the logger and the message of each
record.
-/

namespace BindingGlue.Log

/-- Something that is logged. -/
inductive Event where
  /-- The directory of templates is not there. -/
  | templatesMissing (path : String)
  /-- The header of a batch was read. -/
  | header (className : String) (mode : Mode)
  /-- A signature was read. -/
  | parsed (signature : Signature)
  /-- The template of a native body is about to be filled in. -/
  | nativeBody (className method : String)
  /-- The setter of a property was generated. -/
  | propertySetter (method key : String)
  /-- The getter of a property was generated. -/
  | propertyGetter (method key : String)
  /-- A line was refused. -/
  | aborting (diagnostic : Diagnostic)
  /-- A batch was processed. -/
  | generated (count : Nat) (className : String)
  /-- The generator was at fault. -/
  | broken

/-- The record of an event. -/
def Event.record : Event → Record
  | templatesMissing path => {
      level := 30
      logger := "napi_binding_generator.utils"
      message := "Templates directory not found, using package templates: " ++ path }
  | header className mode => {
      level := 10
      logger := "napi_binding_generator.batch_driver"
      message := "Header: " ++ className ++ " (" ++ mode.name ++ " mode)" }
  | parsed signature => {
      level := 10
      logger := "napi_binding_generator.parsing.signature_parser"
      message := "Parsed " ++ signature.summary }
  | nativeBody className method => {
      level := 10
      logger := "napi_binding_generator.emitters.native_emitter"
      message := "Rendering native body for " ++ className ++ "::" ++ method }
  | propertySetter method key => {
      level := 10
      logger := "napi_binding_generator.emitters.typed_api_emitter"
      message := "Property setter " ++ method ++ " -> key '" ++ key ++ "'" }
  | propertyGetter method key => {
      level := 10
      logger := "napi_binding_generator.emitters.typed_api_emitter"
      message := "Property getter " ++ method ++ " -> key '" ++ key ++ "'" }
  | aborting diagnostic => {
      level := 30
      logger := "napi_binding_generator.batch_driver"
      message := "Aborting batch: " ++ diagnostic.text }
  | generated count className => {
      level := 20
      logger := "napi_binding_generator.batch_driver"
      message := "Generated " ++ count.repr ++ " method(s) for " ++ className }
  | broken => {
      level := 40
      logger := "napi_binding_generator.generate_bindings"
      message := "Failed to generate bindings"
      isTraced := true }

end BindingGlue.Log
