import Mathlib.Data.List.Nodup
import BindingGlue.Proofs.Types.Catalogue

/-!
# The two sides of a catalogue

A spelling may stand for one type as a result and for another one as an argument, because the last
entry of its name counts on the one side and the last one that can be passed on the other. The two
sides part exactly on the names under which an entry that cannot be passed, void or a list, comes
after one that can (`Catalogue.IsSplit`). An extended catalogue has one entry for each name, so
there no spelling is split (`Catalogue.not_isSplit_extended`) and the sides agree on every one
(`Catalogue.sides_agree_iff`).
-/

namespace BindingGlue

variable {entries : List TypeEntry} {entry type : TypeEntry} {catalogue : Catalogue}
  {name spelling : String} {p : TypeEntry → Bool}

/-! ### Entries that are kept -/

/-- The last entry of a name is still the last one where other entries are left out. -/
theorem lastNamed?_filter (h : lastNamed? entries name = some entry) (hp : p entry) :
    lastNamed? (entries.filter p) name = some entry := by
  rw [lastNamed?, List.find?_eq_some_iff_append] at h
  obtain ⟨hname, later, earlier, hentries, hlater⟩ := h
  rw [lastNamed?, ← List.filter_reverse, List.find?_filter, List.find?_eq_some_iff_append]
  refine ⟨by simp [hname, hp], later, earlier, hentries, fun other hother ↦ ?_⟩
  have hne := hlater other hother
  rw [Bool.not_eq_true', beq_eq_false_iff_ne] at hne
  simp [hne]

/-- An entry in front of one of the name is not the last one. -/
theorem lastNamed?_cons_of_some (h : lastNamed? entries name = some entry) (first : TypeEntry) :
    lastNamed? (first :: entries) name = some entry := by
  rw [lastNamed?] at h
  rw [lastNamed?, List.reverse_cons, List.find?_append, h, Option.some_or]

/-- Some entry of the name is found if there is one. -/
theorem exists_lastNamed? (hmem : entry ∈ entries) :
    ∃ last, lastNamed? entries entry.name = some last := by
  cases hlast : lastNamed? entries entry.name with
  | none => exact absurd rfl (lastNamed?_eq_none_iff.1 hlast entry hmem)
  | some last => exact ⟨last, rfl⟩

theorem mem_of_mem_withoutReplaced (h : entry ∈ withoutReplaced entries) : entry ∈ entries := by
  induction entries with
  | nil => cases h
  | cons first later ih =>
    rw [withoutReplaced] at h
    split at h
    case isTrue => exact List.mem_cons_of_mem _ (ih h)
    case isFalse =>
      rcases List.mem_cons.1 h with rfl | h
      · exact List.mem_cons_self
      · exact List.mem_cons_of_mem _ (ih h)

/-- Where replaced entries are gone, no name comes twice. -/
theorem nodup_names_withoutReplaced (entries : List TypeEntry) :
    ((withoutReplaced entries).map (·.name)).Nodup := by
  induction entries with
  | nil => exact .nil
  | cons first later ih =>
    rw [withoutReplaced]
    split
    case isTrue => exact ih
    case isFalse hkept =>
      rw [List.map_cons, List.nodup_cons]
      refine ⟨fun hmem ↦ hkept ?_, ih⟩
      obtain ⟨other, hother, hname⟩ := List.mem_map.1 hmem
      exact List.any_eq_true.2 ⟨other, mem_of_mem_withoutReplaced hother, by simpa using hname⟩

namespace Catalogue

/-! ### From results to arguments -/

/-- The arguments are the results that can be passed, as the type `void` cannot. -/
theorem arguments_eq_filter_results (catalogue : Catalogue) :
    catalogue.arguments = catalogue.results.filter (·.isPassable) :=
  rfl

/-- A result type that can be passed is the argument type as well. -/
theorem argumentType?_of_resultType? (h : catalogue.resultType? spelling = some type)
    (hpassable : type.isPassable) : catalogue.argumentType? spelling = some type := by
  rw [argumentType?, arguments_eq_filter_results]
  exact lastNamed?_filter h hpassable

/-- Some entry of the name can be passed, and yet the last one of that name cannot: the spelling
stands for the one as an argument and for the other as a result. -/
def IsSplit (catalogue : Catalogue) (spelling : String) : Prop :=
  (∃ entry ∈ catalogue.entries, entry.name = Types.bareName spelling ∧ entry.isPassable) ∧
    ∃ last, catalogue.resultType? spelling = some last ∧ ¬ last.isPassable

/-- Where the sides do not part, an argument type is the result type. -/
theorem resultType?_of_argumentType? (hsplit : ¬ catalogue.IsSplit spelling)
    (h : catalogue.argumentType? spelling = some type) :
    catalogue.resultType? spelling = some type := by
  obtain ⟨hmem, hpassable, hname⟩ := argumentType?_eq_some h
  have hresults : type ∈ catalogue.results := List.mem_cons_of_mem _ hmem
  obtain ⟨last, hlast⟩ := exists_lastNamed? hresults
  rw [hname] at hlast
  by_cases hkept : last.isPassable
  case neg => exact absurd ⟨⟨type, hmem, hname, hpassable⟩, last, hlast, hkept⟩ hsplit
  case pos =>
    obtain rfl := Option.some.inj (h.symm.trans (argumentType?_of_resultType? hlast hkept))
    exact hlast

/-- The entry that can be passed is found among the arguments. -/
theorem IsSplit.exists_argumentType? (h : catalogue.IsSplit spelling) :
    ∃ type, catalogue.argumentType? spelling = some type := by
  obtain ⟨⟨entry, hmem, hname, hpassable⟩, -⟩ := h
  have harguments : entry ∈ catalogue.arguments := List.mem_filter.2 ⟨hmem, hpassable⟩
  obtain ⟨last, hlast⟩ := exists_lastNamed? harguments
  rw [hname] at hlast
  exact ⟨last, hlast⟩

/-- With one entry for each name nothing is split. -/
theorem not_isSplit_of_nodup (h : (catalogue.entries.map (·.name)).Nodup) (spelling : String) :
    ¬ catalogue.IsSplit spelling := by
  rintro ⟨⟨entry, hmem, hname, hpassable⟩, last, hlast, hvalueless⟩
  obtain ⟨only, honly⟩ := exists_lastNamed? hmem
  rw [hname] at honly
  obtain rfl := Option.some.inj (hlast.symm.trans (lastNamed?_cons_of_some honly Vocabulary.void))
  obtain ⟨hmem', hname'⟩ := lastNamed?_eq_some honly
  obtain rfl := List.inj_on_of_nodup_map h hmem hmem' (hname.trans hname'.symm)
  exact hvalueless hpassable

/-- An extended catalogue splits no spelling, as an entry replaces the standard one of its name
altogether. -/
theorem not_isSplit_extended (extra : List TypeEntry) (spelling : String) :
    ¬ (extended extra).IsSplit spelling :=
  not_isSplit_of_nodup (nodup_names_withoutReplaced _) spelling

/-! ### Agreement, exactly -/

/-- **The two sides of a catalogue agree on a spelling exactly if it is not split**: then the
spelling stands for a type as an argument if and only if it stands for the same type as a result and
that type is neither void nor a list. -/
theorem sides_agree_iff (catalogue : Catalogue) (spelling : String) :
    (∀ type, catalogue.argumentType? spelling = some type ↔
      catalogue.resultType? spelling = some type ∧ type.category ≠ .void ∧
        type.packing ≠ .objectList) ↔ ¬ catalogue.IsSplit spelling := by
  constructor
  · -- the argument type would be the last entry, which cannot be passed
    intro hsides hsplit
    obtain ⟨type, htype⟩ := hsplit.exists_argumentType?
    obtain ⟨-, last, hlast, hvalueless⟩ := hsplit
    obtain ⟨hresult, hpassable⟩ := (hsides type).1 htype
    obtain rfl := Option.some.inj (hlast.symm.trans hresult)
    exact hvalueless (TypeEntry.isPassable_iff.2 hpassable)
  · intro hsplit type
    constructor
    · intro h
      exact ⟨resultType?_of_argumentType? hsplit h,
        TypeEntry.isPassable_iff.1 (argumentType?_eq_some h).2.1⟩
    · rintro ⟨hresult, hpassable⟩
      exact argumentType?_of_resultType? hresult (TypeEntry.isPassable_iff.2 hpassable)

/-- A name that is first an object and then a list keeps the object as an argument, although only
the list is a result. -/
theorem sides_disagree_replacedByList :
    ¬ ∀ (entries : List TypeEntry) (spelling : String) (type : TypeEntry),
      (Catalogue.mk entries).argumentType? spelling = some type ↔
        (Catalogue.mk entries).resultType? spelling = some type ∧ type.category ≠ .void ∧
          type.packing ≠ .objectList := by
  intro h
  have hargument : (Catalogue.mk [Vocabulary.valueObject "X",
      Vocabulary.objectList "X" (Vocabulary.valueObject "Y")]).argumentType? "X" =
        some (Vocabulary.valueObject "X") := by
    decide
  have hresult : (Catalogue.mk [Vocabulary.valueObject "X",
      Vocabulary.objectList "X" (Vocabulary.valueObject "Y")]).resultType? "X" =
        some (Vocabulary.objectList "X" (Vocabulary.valueObject "Y")) := by
    decide
  have hsame := Option.some.inj (hresult.symm.trans ((h _ _ _).1 hargument).1)
  exact absurd (congrArg TypeEntry.packing hsame) (by decide)

end Catalogue

end BindingGlue
