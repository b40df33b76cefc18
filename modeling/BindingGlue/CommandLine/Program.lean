import BindingGlue.CommandLine.Run

/-!
# The whole program

What the program does from its arguments and its standard input on. It may halt before it reads its
input, since the arguments are not accepted or there is no log.
-/

namespace BindingGlue.CommandLine

/-- Why the program does not come to its input. -/
inductive Halt where
  /-- The arguments set nothing. -/
  | usage (usage : Usage)
  /-- There is no log. -/
  | log (fault : LogFault)
  deriving DecidableEq

/-- Runs the program on its arguments and its standard input. There is also the file that the log
is to be written to, if it is. -/
def FileSystem.program {m : Type → Type} [Monad m] (files : FileSystem m)
    (engine : Template.Engine) (arguments : List String) (input : m String) :
    m (Except Halt (Outcome × Option LogFile)) :=
  match Settings.read arguments with
  | .error usage => return .error (.usage usage)
  | .ok settings => do
    match ← files.openLog settings with
    | .error fault => return .error (.log fault)
    | .ok (setup, file) =>
      let directory ← files.templatesDirectory settings
      return .ok (execute engine setup directory (← input), file)

end BindingGlue.CommandLine
