import BindingGlue.Interpreter.Value

/-!
# Loops under way

While a template is filled in, the loops whose bodies are being written are under way, each inside
the one before it. A loop takes its items from a value or from a loop around it: then it takes them
away from that loop, which goes on after them, and each of its items is a pair of the item and the
loop that it was taken from. A loop may also look one item ahead, and so take it early.
-/

namespace BindingGlue.Interpreter

open Template (Fault)

/-- Where a loop takes its items from. -/
inductive Supply where
  /-- Items that are still to come. -/
  | items (items : List Value)
  /-- The loop at a depth. -/
  | loop (depth : Nat)

/-- A loop that is under way. -/
structure Loop where
  /-- Where the next item comes from. -/
  supply : Supply
  /-- The number of items that there are in all. -/
  count : Nat
  /-- The number of items that had their turn, the present one among them. -/
  index : Nat := 0
  /-- The item whose turn it is. -/
  current : Value := .undefined .noPreviousItem
  /-- The item whose turn was before. -/
  before : Value := .undefined .noPreviousItem
  /-- The item that was taken early. -/
  ahead? : Option Value := none

/-- The loop in the turn of its next item. -/
def Loop.turnTo (loop : Loop) (item : Value) : Loop :=
  { loop with index := loop.index + 1, before := loop.current, current := item, ahead? := none }

/-- The loops that are under way, the outermost first. -/
abbrev Loops := List Loop

namespace Loops

mutual

/-- Takes an item from where the loop at a depth gets its items. -/
def pull? (loops : Loops) (depth : Nat) : Option (Value × Loops) :=
  match loops[depth]? with
  | none => none
  | some loop =>
    match loop.supply with
    | .items [] => none
    | .items (item :: items) => some (item, loops.set depth { loop with supply := .items items })
    | .loop outer =>
      if outer < depth then
        (loops.next? outer).map fun (item, loops) ↦ (.tuple [item, .loop outer], loops)
      else none
termination_by (depth, 0)

/-- Turns the loop at a depth to its next item. -/
def next? (loops : Loops) (depth : Nat) : Option (Value × Loops) :=
  let taken? :=
    match (loops[depth]?).bind Loop.ahead? with
    | some item => some (item, loops)
    | none => loops.pull? depth
  taken?.map fun (item, loops) ↦ (item, loops.modify depth (·.turnTo item))
termination_by (depth, 1)

end

/-- How the loop at a depth is shown. -/
def shown (loops : Loops) (depth : Nat) : String :=
  match loops[depth]? with
  | some loop => "<LoopContext " ++ loop.index.repr ++ "/" ++ loop.count.repr ++ ">"
  | none => ""

end Loops

/-- What fills in a part of a template. It may move the loops that are under way, and may fail. -/
abbrev Filling := StateT Loops (Except Fault)

namespace Filling

/-- Turns the loop at a depth to its next item, if there is one. -/
def next (depth : Nat) : Filling (Option Value) := do
  match (← get).next? depth with
  | none => return none
  | some (item, loops) =>
    set loops
    return item

/-- The item after the present one of the loop at a depth, if there is one. -/
def peek (depth : Nat) : Filling (Option Value) := do
  let loops ← get
  match (loops[depth]?).bind Loop.ahead? with
  | some item => return item
  | none =>
    match loops.pull? depth with
    | none => return none
    | some (item, loops) =>
      set (loops.modify depth fun loop ↦ { loop with ahead? := some item })
      return item

/-- The state of a loop, by the names of its parts. -/
def loopPart? (depth : Nat) (loop : Loop) : String → Filling (Option Value)
  | "index" => return some (.number loop.index)
  | "index0" => return some (.number (loop.index - 1))
  | "revindex" => return some (.number (.subNatNat loop.count (loop.index - 1)))
  | "revindex0" => return some (.number (.subNatNat loop.count loop.index))
  | "first" => return some (.truth (loop.index == 1))
  | "last" => return some (.truth (← peek depth).isNone)
  | "length" => return some (.number loop.count)
  | "depth" => return some (.number 1)
  | "depth0" => return some (.number 0)
  | "previtem" => return some loop.before
  | "nextitem" => return some ((← peek depth).getD (.undefined .noNextItem))
  | "_recurse" => return some .nothing
  | _ => return none

/-- Puts a value to use, unless it is missing. -/
def use : Value → Filling Unit
  | .undefined fault => throw fault
  | _ => return ()

/-- The text of a value. -/
def write (value : Value) : Filling String := do
  use value
  value.written (← get).shown

/-- Whether a condition on the value holds. -/
def holds (value : Value) : Filling Bool := do
  use value
  return value.isTrue

/-- The part of a value that is a loop. -/
def part? (value : Value) (name : String) : Filling (Option Value) := do
  match value with
  | .loop depth =>
    match (← get)[depth]? with
    | some loop => loopPart? depth loop name
    | none => return none
  | _ => return none

/-- The field of a value: a part of a loop, a member, or what the value holds under the name. A
field that is not there is missing, except that a missing value has no fields. -/
def field (value : Value) (name : String) : Filling Value := do
  use value
  let part? ← part? value name
  match (part?.or (value.member? (← get).shown name)).or (value.item? name) with
  | some found => return found
  | none => return .undefined (.undefinedField value.owner name)

end Filling

/-- What a loop runs over: the items of a list, the characters of a text, the names of an object's
fields, another loop; no other value has anything to run over. -/
def Value.supply : Value → Except Fault Supply
  | text s => .ok (.items (s.toList.map fun c ↦ text (String.ofList [c])))
  | list items | tuple items => .ok (.items items)
  | object fields => .ok (.items (fields.map fun field ↦ text field.1))
  | loop depth => .ok (.loop depth)
  | undefined fault => .error fault
  | value => .error (.notIterable value.kindName)

/-- A loop over a value that is about to begin inside the loops around it. -/
def Loop.over (around : Loops) (source : Value) : Except Fault Loop := do
  let supply ← source.supply
  let count := match supply with
    | .items items => items.length
    | .loop depth => ((around[depth]?).map Loop.count).getD 0
  return { supply, count }

end BindingGlue.Interpreter
