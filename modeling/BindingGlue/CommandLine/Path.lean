/-!
# Paths

A path is resolved against a working directory: empty steps and single dots lead nowhere, and two
dots lead up, from the top to the top. A resolved path is then walked from the top, one step at a
time, until it is known what stands at its end or why nothing does.
-/

namespace BindingGlue.CommandLine

/-- The steps from the top that are left once steps up are taken, the last one first. -/
def takeSteps : List String → List String → List String
  | walked, [] => walked
  | walked, step :: steps =>
    if step = "" || step = "." then takeSteps walked steps
    else if step = ".." then takeSteps walked.tail steps
    else takeSteps (step :: walked) steps

/-- The steps of a path. -/
def pathSteps (path : String) : List String :=
  (path.toList.splitOn '/').map String.ofList

/-- The steps from the top that a path stands for in a working directory. -/
def resolveSteps (workingDirectory path : String) : List String :=
  let steps :=
    if path.toList.head? = some '/' then pathSteps path
    else pathSteps workingDirectory ++ pathSteps path
  (takeSteps [] steps).reverse

/-- The path with those steps from the top. -/
def pathText (steps : List String) : String :=
  "/" ++ "/".intercalate steps

/-- What stands at a path. -/
inductive Place where
  /-- A directory. -/
  | directory
  /-- Something that is no directory. -/
  | file
  /-- Nothing, in a directory. -/
  | vacant
  /-- Nothing, since a step before the last one leads nowhere. -/
  | unreachable
  /-- Nothing, since a step before the last one leads to something that is no directory. -/
  | blocked
  /-- Nothing, since a name or the path is longer than any can be. -/
  | tooLong
  deriving DecidableEq

/-- The greatest number of bytes of a name. -/
def maxNameSize : Nat := 255

/-- The greatest number of bytes of a path. -/
def maxPathSize : Nat := 4095

/-- Walks steps from a directory, where `isDirectory?` says of a path whether it is a directory's,
and nothing if nothing is there. -/
def walk {m : Type → Type} [Monad m] (isDirectory? : String → m (Option Bool)) (above : String) :
    List String → m Place
  | [] => pure .directory
  | step :: steps =>
    if maxNameSize < step.utf8ByteSize then pure .tooLong
    else do
      match ← isDirectory? (above ++ "/" ++ step) with
      | some true => walk isDirectory? (above ++ "/" ++ step) steps
      | some false => pure (if steps.isEmpty then .file else .blocked)
      | none => pure (if steps.isEmpty then .vacant else .unreachable)

/-- Looks up what stands at the path with those steps from the top. -/
def lookUp {m : Type → Type} [Monad m] (isDirectory? : String → m (Option Bool))
    (steps : List String) : m Place :=
  if maxPathSize < (pathText steps).utf8ByteSize then pure .tooLong
  else walk isDirectory? "" steps

end BindingGlue.CommandLine
