import BindingGlue.Interpreter.Node

/-!
# The innermost loop

While a loop over a list is the innermost one, the invariant of its turns is which items are still
to come (`Loop.Remains`): the one that was taken early, if a body looked ahead, and then those in
the supply. A turn takes the first of them (`Filling.exists_next_of_remains`) and looking ahead
takes none (`Filling.exists_peek_of_remains`), so a body may ask whether its turn is the last one
(`Filling.exists_last_of_remains`). The loops around it stay as they are.
-/

namespace BindingGlue.Interpreter

open Template (Fault)

variable {α β : Type} {around loops loops' : Loops} {loop : Loop} {value : Value}
  {items rest : List Value}

/-! ### Runs of fillings -/

/-- What succeeds hands its value and the loops on. -/
theorem Filling.run_bind_of_ok {filling : Filling α} {a : α} (f : α → Filling β)
    (h : filling.run loops = .ok (a, loops')) : (filling >>= f).run loops = (f a).run loops' := by
  rw [StateT.run_bind, h]
  rfl

/-- What fails hands nothing on. -/
theorem Filling.run_bind_of_error {filling : Filling α} {fault : Fault} (f : α → Filling β)
    (h : filling.run loops = .error fault) : (filling >>= f).run loops = .error fault := by
  rw [StateT.run_bind, h]
  rfl

theorem Filling.run_get_bind (f : Loops → Filling β) :
    (get >>= f : Filling β).run loops = (f loops).run loops :=
  rfl

theorem Filling.run_set_bind (f : PUnit → Filling β) :
    (set loops' >>= f : Filling β).run loops = (f ⟨⟩).run loops' :=
  rfl

theorem Filling.run_lift_bind (a : α) (f : α → Filling β) :
    (liftM (Except.ok a : Except Fault α) >>= f : Filling β).run loops = (f a).run loops :=
  rfl

/-! ### The items to come -/

/-- The loop still has these items to come, in this order. -/
def Loop.Remains (loop : Loop) (items : List Value) : Prop :=
  ∃ supplied, loop.supply = .items supplied ∧ items = loop.ahead?.toList ++ supplied

theorem modify_innermost (f : Loop → Loop) :
    (around ++ [loop]).modify around.length f = around ++ [f loop] := by
  induction around with
  | nil => rfl
  | cons first around ih => simpa using ih

namespace Loops

/-- What is taken from the innermost loop's own supply. -/
theorem pull?_innermost (hsupply : loop.supply = .items items) :
    pull? (around ++ [loop]) around.length =
      match items with
      | [] => none
      | item :: rest => some (item, around ++ [{ loop with supply := .items rest }]) := by
  rw [pull?]
  simp only [List.getElem?_concat_length, hsupply]
  cases items with
  | nil => rfl
  | cons item rest => simp [List.set_append_right]

/-- A turn of the innermost loop takes the first item to come. -/
theorem exists_next?_of_remains (around : Loops) (h : loop.Remains (value :: rest)) :
    ∃ loop' : Loop, loop'.Remains rest ∧
      next? (around ++ [loop]) around.length = some (value, around ++ [loop']) := by
  obtain ⟨supplied, hsupply, hitems⟩ := h
  rw [next?]
  simp only [List.getElem?_concat_length, Option.bind_some]
  cases hahead : loop.ahead? with
  | some item =>
    rw [hahead] at hitems
    obtain ⟨rfl, rfl⟩ := List.cons.inj hitems
    exact ⟨loop.turnTo value, ⟨rest, hsupply, rfl⟩, by simp [modify_innermost]⟩
  | none =>
    rw [hahead] at hitems
    obtain rfl : supplied = value :: rest := hitems.symm
    refine ⟨{ loop with supply := .items rest }.turnTo value, ⟨rest, rfl, rfl⟩, ?_⟩
    rw [pull?_innermost hsupply]
    simp [modify_innermost, hahead]

theorem next?_eq_none_of_remains (h : loop.Remains []) :
    next? (around ++ [loop]) around.length = none := by
  obtain ⟨supplied, hsupply, hitems⟩ := h
  obtain ⟨hahead, rfl⟩ := List.append_eq_nil_iff.1 hitems.symm
  rw [next?]
  simp [Option.toList_eq_nil_iff.1 hahead, pull?_innermost hsupply]

end Loops

namespace Filling

theorem exists_next_of_remains (around : Loops) (h : loop.Remains (value :: rest)) :
    ∃ loop' : Loop, loop'.Remains rest ∧
      (next around.length).run (around ++ [loop]) = .ok (some value, around ++ [loop']) := by
  obtain ⟨loop', h', hnext⟩ := Loops.exists_next?_of_remains around h
  refine ⟨loop', h', ?_⟩
  rw [next, run_get_bind, hnext]
  rfl

theorem next_of_remains_nil (h : loop.Remains []) :
    (next around.length).run (around ++ [loop]) = .ok (none, around ++ [loop]) := by
  rw [next, run_get_bind, Loops.next?_eq_none_of_remains h]
  rfl

/-- Looking ahead in the innermost loop shows the first item to come, and takes none. -/
theorem exists_peek_of_remains (around : Loops) (h : loop.Remains items) :
    ∃ loop' : Loop, loop'.Remains items ∧
      (peek around.length).run (around ++ [loop]) = .ok (items.head?, around ++ [loop']) := by
  obtain ⟨supplied, hsupply, hitems⟩ := h
  cases hahead : loop.ahead? with
  | some item =>
    refine ⟨loop, ⟨supplied, hsupply, hitems⟩, ?_⟩
    rw [peek, run_get_bind]
    simp only [List.getElem?_concat_length, Option.bind_some, hahead, hitems]
    rfl
  | none =>
    rw [hahead] at hitems
    obtain rfl : items = supplied := hitems
    cases items with
    | nil =>
      refine ⟨loop, ⟨[], hsupply, by simp [hahead]⟩, ?_⟩
      rw [peek, run_get_bind]
      simp only [List.getElem?_concat_length, Option.bind_some, hahead,
        Loops.pull?_innermost hsupply]
      rfl
    | cons item rest =>
      -- the item leaves the supply, but it is kept for the next turn
      refine ⟨{ loop with supply := .items rest, ahead? := some item }, ⟨rest, rfl, rfl⟩, ?_⟩
      rw [peek, run_get_bind]
      simp only [List.getElem?_concat_length, Option.bind_some, hahead,
        Loops.pull?_innermost hsupply, modify_innermost, run_set_bind]
      rfl

/-- Whether the turn of the innermost loop is the last one is the field `last` of the loop. -/
theorem exists_last_of_remains (around : Loops) (h : loop.Remains items) :
    ∃ loop' : Loop, loop'.Remains items ∧
      (field (.loop around.length) "last").run (around ++ [loop]) =
        .ok (.truth items.isEmpty, around ++ [loop']) := by
  obtain ⟨loop', h', hpeek⟩ := exists_peek_of_remains around h
  refine ⟨loop', h', ?_⟩
  have hpart : (part? (.loop around.length) "last").run (around ++ [loop]) =
      .ok (some (.truth items.isEmpty), around ++ [loop']) := by
    rw [part?, run_get_bind]
    simp only [List.getElem?_concat_length]
    show (peek around.length >>= fun next? ↦ pure (some (.truth next?.isNone))
      : Filling (Option Value)).run (around ++ [loop]) = _
    rw [run_bind_of_ok _ hpeek]
    cases items <;> rfl
  have huse : (use (.loop around.length)).run (around ++ [loop]) = .ok (⟨⟩, around ++ [loop]) := rfl
  rw [field, run_bind_of_ok _ huse, run_bind_of_ok _ hpart]
  rfl

end Filling

end BindingGlue.Interpreter
