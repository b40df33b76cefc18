import BindingGlue.Interpreter.Node
import BindingGlue.Template.Engine
import BindingGlue.Text.Form

/-!
# Spellings of names

The names that a template mentions get their values in frames: the template itself is one, and each
turn of a loop is another, which gives a value to the item, to the loop and to every name that is
asked for there and that no frame around it knows. Two spellings of one identifier in a frame share
the value that was given last; everywhere else names are told apart by their spelling alone.
-/

namespace BindingGlue.Interpreter

/-- The names that get a value together. -/
structure Frame where
  /-- The names that are given values, in their order. -/
  given : List String
  /-- The names that are asked for, which then get the values known throughout the template. -/
  asked : List String

/-- All names of a frame, in the order in which they get their values. -/
def Frame.names (frame : Frame) : List String :=
  frame.given ++ frame.asked

/-- The frame inside others that gives values to some names and then to those asked for. -/
def Frame.inside (around : List Frame) (given asked : List String) : Frame where
  given
  asked := (asked.filter fun name ↦
    !isConstant name && !given.contains name && !around.any (·.names.contains name)).eraseDups

/-- The path as its name is found inside frames, the innermost first. -/
def Path.spelled (frames : List Frame) (path : Path) : Path :=
  match frames.find? (·.names.contains path.name) with
  | none => path
  | some frame =>
    match (frame.names.filter (Text.sameIdentifier path.name)).getLast? with
    | none => path
    | some spelling =>
      let isGlobal := spelling != path.name && frame.asked.contains spelling
      { path with spelling, isGlobal }

mutual

/-- The names that a part asks for outside the bodies of its loops. -/
def Node.asked : Node → List String
  | .text _ => []
  | .value path => [path.name]
  | .each _ source _ => [source.name]
  | .guarded _ condition body => condition.name :: askedAll body

/-- The names that parts ask for outside the bodies of their loops. -/
def askedAll : List Node → List String
  | [] => []
  | node :: nodes => node.asked ++ askedAll nodes

end

/-- The names that a loop gives values to: that of its item, and its own if the body mentions it. -/
def givenNames (item : String) (body : List Node) : List String :=
  if (asksAny? loopName body).isSome then [item, loopName] else [item]

mutual

/-- The part with the spellings under which its names are found. -/
def Node.spelled (frames : List Frame) : Node → Node
  | .text s => .text s
  | .value path => .value (path.spelled frames)
  | .each item source body =>
    let frame := Frame.inside frames (givenNames item body) (askedAll body)
    .each item (source.spelled frames) (spelledAll (frame :: frames) body)
  | .guarded expected condition body =>
    .guarded expected (condition.spelled frames) (spelledAll frames body)

/-- The parts with the spellings under which their names are found. -/
def spelledAll (frames : List Frame) : List Node → List Node
  | [] => []
  | node :: nodes => node.spelled frames :: spelledAll frames nodes

end

/-- Whether a template has a value for itself: it asks for that before it gives the name to the
items of a loop. -/
def knowsItself (nodes : List Node) : Bool :=
  asksAny? Template.selfName nodes = some true

/-- The parts of a whole template with the spellings under which their names are found. -/
def spelled (nodes : List Node) : List Node :=
  let given := if knowsItself nodes then [Template.selfName] else []
  spelledAll [Frame.inside [] given (askedAll nodes)] nodes

end BindingGlue.Interpreter
