import BindingGlue.CommandLine.Path
import BindingGlue.CommandLine.Settings
import BindingGlue.Generator

/-!
# Files and directories

What the settings name in the file system: the user's directory of templates, which may be missing,
and the file of the log, which has to be one that can be written.
-/

namespace BindingGlue.CommandLine

/-- What is asked of a file system. -/
structure FileSystem (m : Type → Type) where
  /-- The directory that paths start from. -/
  workingDirectory : String
  /-- Whether a path is a directory's; nothing if nothing is there. -/
  isDirectory? : String → m (Option Bool)
  /-- The templates in a directory. -/
  shelf : String → m Template.Shelf
  /-- Whether what is written to a path goes where the standard output goes. -/
  isOutput : String → m Bool

/-- What became of the user's directory of templates. -/
inductive TemplatesDirectory where
  /-- None was asked for. -/
  | standard
  /-- The directory is there, with these templates. -/
  | found (shelf : Template.Shelf)
  /-- There is no such directory. -/
  | missing (path : String)
  /-- The path cannot be looked up. -/
  | unusable

/-- A file that the log is written to. -/
structure LogFile where
  /-- The path of the file. -/
  path : String
  /-- Whether the path leads to where the standard output goes. -/
  isOutput : Bool
  deriving DecidableEq

/-- Why the file of the log cannot be written. -/
inductive FileFault where
  /-- The path holds a null character. -/
  | nullCharacter
  /-- The path is a directory's. -/
  | isDirectory (path : String)
  /-- A step of the path leads nowhere. -/
  | unreachable (path : String)
  /-- A step of the path leads to something that is no directory. -/
  | blocked (path : String)
  /-- A name or the path is too long. -/
  | tooLong (path : String)
  deriving DecidableEq

/-- The message of a fault. -/
def FileFault.message : FileFault → String
  | nullCharacter => "embedded null byte"
  | isDirectory path => "[Errno 21] Is a directory: " ++ Text.quoted path
  | unreachable path => "[Errno 2] No such file or directory: " ++ Text.quoted path
  | blocked path => "[Errno 20] Not a directory: " ++ Text.quoted path
  | tooLong path => "[Errno 36] File name too long: " ++ Text.quoted path

/-- Why there is no log. -/
inductive LogFault where
  /-- There is no setup. -/
  | setup (fault : Log.Setup.Fault)
  /-- The file cannot be written. -/
  | file (fault : FileFault)
  deriving DecidableEq

/-- The message of a fault. -/
def LogFault.message : LogFault → String
  | setup fault => fault.message
  | file fault => fault.message

namespace FileSystem

variable {m : Type → Type} [Monad m]

/-- The steps from the top of a path; a path with a null character has none. -/
def steps? (files : FileSystem m) (path : String) : Option (List String) :=
  if path.toList.contains '\x00' then none else some (resolveSteps files.workingDirectory path)

/-- Looks the user's directory of templates up. -/
def templatesDirectory (files : FileSystem m) (settings : Settings) : m TemplatesDirectory :=
  match settings.templatesDir.text? with
  | none => pure .standard
  | some path =>
    match files.steps? path with
    | none => pure .unusable
    | some steps => do
      match ← lookUp files.isDirectory? steps with
      | .directory => return .found (← files.shelf (pathText steps))
      | .tooLong => return .unusable
      | _ => return .missing (pathText steps)

/-- Looks the file of the log up, if there is to be one. -/
def logFile (files : FileSystem m) (settings : Settings) : m (Except FileFault (Option LogFile)) :=
  match settings.logFile.text? with
  | none => pure (.ok none)
  | some path =>
    match files.steps? path with
    | none => pure (.error .nullCharacter)
    | some steps => do
      let path := pathText steps
      match ← lookUp files.isDirectory? steps with
      | .file | .vacant => return .ok (some { path, isOutput := ← files.isOutput path })
      | .directory => return .error (.isDirectory path)
      | .unreachable => return .error (.unreachable path)
      | .blocked => return .error (.blocked path)
      | .tooLong => return .error (.tooLong path)

/-- The log that the settings ask for: how records are shown, and the file that they are also
written to. A fault of the setup comes before one of the file. -/
def openLog (files : FileSystem m) (settings : Settings) :
    m (Except LogFault (Log.Setup × Option LogFile)) :=
  match settings.logSetup with
  | .error fault => pure (.error (.setup fault))
  | .ok setup => do
    match ← files.logFile settings with
    | .error fault => return .error (.file fault)
    | .ok file => return .ok (setup, file)

end FileSystem

end BindingGlue.CommandLine
