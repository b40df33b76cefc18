import BindingGlue.Types.Catalogue

/-!
# Looking types up

What a look-up in a catalogue may give, for catalogues with any entries: names may come twice, and
`void` may be replaced. An entry that is found is one of the entries and has the name, and nothing
is found exactly if no entry has it. An argument type has values, as the entries without any are
kept from the arguments.
-/

namespace BindingGlue

variable {entries : List TypeEntry} {entry other : TypeEntry} {catalogue : Catalogue}
  {name spelling : String}

theorem lastNamed?_eq_some (h : lastNamed? entries name = some entry) :
    entry ∈ entries ∧ entry.name = name := by
  rw [lastNamed?] at h
  exact ⟨List.mem_reverse.1 (List.mem_of_find?_eq_some h), by simpa using List.find?_some h⟩

/-- What is found under a name is found under its own. -/
theorem lastNamed?_name (h : lastNamed? entries name = some entry) :
    lastNamed? entries entry.name = some entry := by
  rw [(lastNamed?_eq_some h).2, h]

theorem lastNamed?_eq_none_iff :
    lastNamed? entries name = none ↔ ∀ entry ∈ entries, entry.name ≠ name := by
  simp [lastNamed?]

namespace Catalogue

theorem resultType?_eq_some (h : catalogue.resultType? spelling = some entry) :
    entry ∈ catalogue.results ∧ entry.name = Types.bareName spelling :=
  lastNamed?_eq_some h

/-- An argument type is an entry that can be passed. -/
theorem argumentType?_eq_some (h : catalogue.argumentType? spelling = some entry) :
    entry ∈ catalogue.entries ∧ entry.isPassable ∧ entry.name = Types.bareName spelling := by
  obtain ⟨hmem, hname⟩ := lastNamed?_eq_some h
  rw [arguments, List.mem_filter] at hmem
  exact ⟨hmem.1, hmem.2, hname⟩

/-- A type has no registered element if it names none, or one that no result type has. -/
theorem elementType?_eq_none_iff :
    catalogue.elementType? entry = none ↔
      ∀ name, entry.element = some name → ∀ other ∈ catalogue.results, other.name ≠ name := by
  rw [elementType?, Option.bind_eq_none_iff]
  exact forall₂_congr fun name _ ↦ lastNamed?_eq_none_iff

end Catalogue

theorem TypeEntry.isPassable_iff :
    entry.isPassable ↔ entry.category ≠ .void ∧ entry.packing ≠ .objectList := by
  rw [isPassable, Bool.and_eq_true, Bool.not_eq_true', isVoid, beq_eq_false_iff_ne, bne_iff_ne]

theorem TypeEntry.category_ne_void_of_isPassable (h : entry.isPassable) :
    entry.category ≠ .void :=
  (isPassable_iff.1 h).1

theorem TypeEntry.packing_ne_objectList_of_isPassable (h : entry.isPassable) :
    entry.packing ≠ .objectList :=
  (isPassable_iff.1 h).2

end BindingGlue
