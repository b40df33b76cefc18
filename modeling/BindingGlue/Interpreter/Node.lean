import BindingGlue.Interpreter.Loop

/-!
# Parts of templates

A template is text with three constructs: the place of a value, a loop over the items of a value,
and a passage that depends on the truth of a value. A template is filled in strictly: to use a name
or a field without a value is an error, and never gives an empty text.
-/

namespace BindingGlue.Interpreter

/-- A name and the fields that are taken from it, one after the other. -/
structure Path where
  /-- The name. -/
  name : String
  /-- The fields, the outermost first. -/
  fields : List String := []
  /-- The spelling of the name under which its value is found. -/
  spelling : String := name
  /-- Whether the value is the one known throughout the template, whatever a loop gave the name
  to. -/
  isGlobal : Bool := false
  deriving DecidableEq

/-- A part of a template. -/
inductive Node where
  /-- Text that is written as it is. -/
  | text (text : String)
  /-- The place of a value. -/
  | value (path : Path)
  /-- The body once for each item, which `item` names. -/
  | each (item : String) (source : Path) (body : List Node)
  /-- The body, if the truth of the condition is as expected. -/
  | guarded (expected : Bool) (condition : Path) (body : List Node)

/-! ### Names -/

/-- The names that always stand for the same value. -/
def constants : List (String × Value) :=
  [("true", .truth true), ("True", .truth true), ("false", .truth false), ("False", .truth false),
   ("none", .nothing), ("None", .nothing)]

/-- Whether a name always stands for the same value. -/
def isConstant (name : String) : Bool :=
  (constants.lookup name).isSome

/-- The name that a loop gives itself. -/
def loopName : String := "loop"

/-- The first mention of a name: whether it is one that asks for its value, and not one that gives
the name to the items of a loop. -/
def Path.asks? (name : String) (path : Path) : Option Bool :=
  if path.name = name then some true else none

mutual

/-- The first mention of a name in a part. -/
def Node.asks? (name : String) : Node → Option Bool
  | .text _ => none
  | .value path => path.asks? name
  | .each item source body =>
    if item = name then some false else (source.asks? name).or (asksAny? name body)
  | .guarded _ condition body => (condition.asks? name).or (asksAny? name body)

/-- The first mention of a name in parts. -/
def asksAny? (name : String) : List Node → Option Bool
  | [] => none
  | node :: nodes => (node.asks? name).or (asksAny? name nodes)

end

/-! ### Depth -/

/-- The most loops that may stand inside each other. -/
def maxLoops : Nat := 20

/-- The most constructs that may stand inside each other. -/
def maxConstructs : Nat := 98

/-- The most fields of the path of a condition; where a value is written and where a loop takes its
items, one fewer. -/
def maxFields : Nat := 198

/-- Whether a path has no more than so many fields. The fields of a constant are no matter. -/
def Path.fits (most : Nat) (path : Path) : Bool :=
  path.fields.length ≤ most || isConstant path.name

mutual

/-- Whether no more than so many loops, and so many constructs of both kinds, stand inside each
other in a part, and no path is too long. -/
def Node.fits (loops constructs : Nat) : Node → Bool
  | .text _ => true
  | .value path => path.fits (maxFields - 1)
  | .each _ source body =>
    0 < loops && 0 < constructs && source.fits (maxFields - 1) &&
      fitAll (loops - 1) (constructs - 1) body
  | .guarded _ condition body =>
    0 < constructs && condition.fits maxFields && fitAll loops (constructs - 1) body

/-- Whether all parts fit. -/
def fitAll (loops constructs : Nat) : List Node → Bool
  | [] => true
  | node :: nodes => node.fits loops constructs && fitAll loops constructs nodes

end

/-! ### Filling in -/

/-- The values of names at a place of a template. -/
structure Scope where
  /-- The values known throughout the template. -/
  root : List (String × Value)
  /-- The values that loops gave, the innermost first. -/
  inner : List (String × Value) := []

namespace Scope

/-- The value that a path starts from. -/
def start (scope : Scope) (path : Path) : Value :=
  let given := if path.isGlobal then none else scope.inner.lookup path.spelling
  (((constants.lookup path.name).or given).or (scope.root.lookup path.spelling)).getD
    (.undefined (.undefinedName path.name))

/-- The value of a path. -/
def find (scope : Scope) (path : Path) : Filling Value :=
  path.fields.foldlM Filling.field (scope.start path)

/-- The scope of the turn of an item in the loop at a depth. -/
def turn (scope : Scope) (item : String) (depth : Nat) (value : Value) : Scope :=
  { scope with inner := (item, value) :: (loopName, .loop depth) :: scope.inner }

/-- The texts of the turns of the loop at a depth, joined. No loop has more turns than the last
argument says. -/
def turns (scope : Scope) (item : String) (depth : Nat) (body : Scope → Filling String) :
    Nat → Filling String
  | 0 => return ""
  | most + 1 => do
    match ← Filling.next depth with
    | none => return ""
    | some value =>
      let first ← body (scope.turn item depth value)
      return first ++ (← scope.turns item depth body most)

/-- The text of a loop over a value. -/
def each (scope : Scope) (item : String) (source : Value) (body : Scope → Filling String) :
    Filling String := do
  let around ← get
  let loop ← Loop.over around source
  set (around ++ [loop])
  let text ← scope.turns item around.length body loop.count
  modify (·.take around.length)
  return text

end Scope

mutual

/-- The text of a part in a scope. -/
def Node.render (scope : Scope) : Node → Filling String
  | .text s => return s
  | .value path => do Filling.write (← scope.find path)
  | .each item source body => do
    scope.each item (← scope.find source) fun inner ↦ renderAll inner body
  | .guarded expected condition body => do
    if (← Filling.holds (← scope.find condition)) = expected then renderAll scope body
    else return ""

/-- The text of parts in a scope, joined. -/
def renderAll (scope : Scope) : List Node → Filling String
  | [] => return ""
  | node :: nodes => do
    let first ← node.render scope
    return first ++ (← renderAll scope nodes)

end

end BindingGlue.Interpreter
