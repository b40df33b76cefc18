import BindingGlue.Template.Fault

/-!
# Shelves of templates

A shelf holds templates under their names, as a directory does: each is a text, or a file that
cannot be read as one, with the fault of trying to. A template is looked for on the user's shelf
first and among the standard templates next, and the first file that is found counts, whether it can
be read or not.
-/

namespace BindingGlue.Template

/-- Templates by name: their texts, or why these cannot be read. -/
abbrev Shelf := List (String × Except Fault String)

/-- The standard template of a native method body. -/
def nativeBodyText : String := "\n".intercalate [
  "",
  "Napi::Value \x7b\x7b wrapper \x7d\x7d::\x7b\x7b name \x7d\x7d" ++
    "(const Napi::CallbackInfo& info) \x7b",
  "  Napi::Env env = info.Env();",
  "  Napi::HandleScope scope(env);",
  "",
  "  if (info.Length() != \x7b\x7b argc \x7d\x7d) \x7b",
  "    Napi::TypeError::New(env, \"Wrong number of arguments\")",
  "        .ThrowAsJavaScriptException();",
  "    return env.Null();",
  "  \x7d",
  "\x7b% for line in extraction %\x7d",
  "  \x7b\x7b line \x7d\x7d",
  "\x7b% endfor %\x7d",
  "  \x7b\x7b invocation \x7d\x7d",
  "\x7b% for line in packing %\x7d",
  "  \x7b\x7b line \x7d\x7d",
  "\x7b% endfor %\x7d",
  "\x7d",
  ""]

/-- The standard template of the report. -/
def reportText : String := "\n".intercalate [
  "\x7b% for section in sections %\x7d",
  "//----------------------------------------------------",
  "// \x7b\x7b section.label \x7d\x7d",
  "\x7b\x7b section.body \x7d\x7d",
  "\x7b% if not loop.last %\x7d",
  "",
  "\x7b% endif %\x7d",
  "\x7b% endfor %\x7d",
  ""]

/-- The standard templates. -/
def standardShelf : Shelf :=
  [("native_body.cpp.j2", .ok nativeBodyText), ("report.txt.j2", .ok reportText)]

/-- The steps of a name: empty ones and single dots lead nowhere, and a name that leads up names no
template. -/
def steps? (name : String) : Option (List String) :=
  let steps := (name.toList.splitOn '/').map String.ofList
  if steps.contains ".." then none
  else match steps.filter fun step ↦ step != "" && step != "." with
    | [] => none
    | steps => some steps

/-- What is on the shelf under the name. -/
def Shelf.find? (shelf : Shelf) (name : String) : Option (Except Fault String) := do
  let steps ← steps? name
  let entry ← List.find? (fun entry ↦ steps? entry.1 == some steps) shelf
  return entry.2

/-- The text under the name, from the user's shelf or else from the standard one. -/
def source (user : Shelf) (name : String) : Except Fault String :=
  ((user.find? name).or (standardShelf.find? name)).getD (.error (.notFound name))

end BindingGlue.Template
