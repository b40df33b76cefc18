import BindingGlue.CommandLine.Program
import BindingGlue.Interpreter.Engine

/-!
# The program

Reads the settings from the command line and a batch from standard input, writes the report to
standard output and the log to standard error and to the log file. Templates are filled in by the
interpreter.
-/

namespace BindingGlue.Main

open CommandLine

/-- The usage of the program. -/
def usage : String :=
  "usage: binding-glue [-h] [--templates-dir DIR] [-v] [-q] [--log-level LEVEL]\n" ++
  "                    [--log-format FORMAT] [--log-file FILE]\n"

/-- The text up to the end of a stream. -/
partial def readAll (stream : IO.FS.Stream) (seen : String) : IO String := do
  let line ← stream.getLine
  if line.isEmpty then return seen else readAll stream (seen ++ line)

/-- Whether a path is a directory's; nothing if nothing is there. -/
def isDirectory? (path : String) : IO (Option Bool) := do
  try
    let found ← IO.FS.realPath path
    if ← found.pathExists then return some (← found.isDir) else return none
  catch _ => return none

/-- The text of a template, or the fault of reading it: it may be out of reach or no text at all. -/
def readTemplate (name path : String) : IO (Except Template.Fault String) := do
  try
    match String.fromUTF8? (← IO.FS.readBinFile path) with
    | some text => return .ok text
    | none => return .error (.unreadable name)
  catch _ => return .error (.unreadable name)

/-- The templates in a directory, under their names in it. -/
def readShelf (path : String) : IO Template.Shelf := do
  let root ← IO.FS.realPath path
  let mut shelf : Template.Shelf := []
  for file in ← root.walkDir do
    unless ← file.isDir do
      let name := (file.toString.drop (root.toString.length + 1)).toString
      shelf := (name, ← readTemplate name file.toString) :: shelf
  return shelf

/-- The paths that lead to the standard output. -/
def outputPaths : List String :=
  ["/dev/stdout", "/dev/fd/1", "/proc/self/fd/1"]

end BindingGlue.Main

open BindingGlue BindingGlue.CommandLine BindingGlue.Main in
/-- The program. -/
def main (arguments : List String) : IO UInt32 := do
  let files : FileSystem IO :=
    { workingDirectory := (← IO.currentDir).toString, isDirectory?, shelf := readShelf
      isOutput := fun path ↦ pure (outputPaths.contains path) }
  match ← files.program Interpreter.engine arguments (do readAll (← IO.getStdin) "") with
  | .error (.usage .help) =>
    IO.print usage
    return 0
  | .error (.usage problem) =>
    IO.eprint (usage ++ "binding-glue: error: " ++ problem.message ++ "\n")
    return 2
  | .error (.log fault) =>
    IO.eprintln fault.message
    return 1
  | .ok (outcome, file) =>
    IO.eprint outcome.log
    match file with
    | some { path, isOutput := false } => IO.FS.writeFile path outcome.log
    | _ => pure ()
    IO.print (outcome.received file)
    return outcome.exitCode.toUInt32
