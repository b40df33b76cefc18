import Mathlib.Data.List.Nodup
import Mathlib.Data.List.Sort
import Mathlib.Data.String.Basic
import BindingGlue.Proofs.Types.Sides

/-!
# Extended catalogues

An extended catalogue is the standard vocabulary under further entries. A name stands for the last
further entry that has it, whatever stood in front, and for what it stood for before if none has it
(`Catalogue.resultType?_extended`). As an argument it stands for the same entry, or for nothing if
that one is void or a list, even where the standard entry could be passed
(`Catalogue.argumentType?_extended`).

Three steps make the catalogue: replaced entries go, `void` comes in front, and the arguments are
picked out. The first leaves every look-up alone (`lastNamed?_withoutReplaced`), and behind it no
name comes twice, so that picking entries out and looking one up can change places
(`lastNamed?_filter_of_nodup`).
-/

namespace BindingGlue

variable {entries : List TypeEntry} {entry : TypeEntry} {name : String} {p : TypeEntry → Bool}

/-! ### The last entry of a name -/

/-- The entry that is found is the one behind which no other has the name. -/
theorem lastNamed?_eq_some_iff :
    lastNamed? entries name = some entry ↔
      ∃ before after, entries = before ++ entry :: after ∧ entry.name = name ∧
        ∀ later ∈ after, later.name ≠ name := by
  rw [lastNamed?, List.find?_eq_some_iff_append]
  constructor
  · rintro ⟨hname, after, before, hentries, hafter⟩
    refine ⟨before.reverse, after.reverse, ?_, by simpa using hname, by simpa using hafter⟩
    rw [← List.reverse_reverse entries, hentries]
    simp
  · rintro ⟨before, after, rfl, hname, hafter⟩
    exact ⟨by simpa using hname, after.reverse, before.reverse, by simp, by simpa using hafter⟩

/-- Of two lists of entries the second one counts, and the first one where that has nothing. -/
theorem lastNamed?_append (entries later : List TypeEntry) (name : String) :
    lastNamed? (entries ++ later) name =
      (lastNamed? later name).or (lastNamed? entries name) := by
  simp only [lastNamed?, List.reverse_append, List.find?_append]

theorem lastNamed?_cons (entry : TypeEntry) (later : List TypeEntry) (name : String) :
    lastNamed? (entry :: later) name =
      (lastNamed? later name).or (if entry.name = name then some entry else none) := by
  rw [← List.singleton_append, lastNamed?_append]
  by_cases hname : entry.name = name
  · simp [lastNamed?, hname]
  · simp [lastNamed?, hname]

/-- An entry that a later one replaces is never found. -/
theorem lastNamed?_withoutReplaced (entries : List TypeEntry) (name : String) :
    lastNamed? (withoutReplaced entries) name = lastNamed? entries name := by
  induction entries with
  | nil => rfl
  | cons entry later ih =>
    rw [withoutReplaced]
    split
    case isFalse => rw [lastNamed?_cons, lastNamed?_cons, ih]
    case isTrue hreplaced =>
      obtain ⟨other, hother, hname⟩ := List.any_eq_true.1 hreplaced
      rw [ih, lastNamed?_cons]
      -- the entry would only be found under a name that no later entry has
      split
      case isFalse => rw [Option.or_none]
      case isTrue heq =>
        obtain ⟨last, hlast⟩ := exists_lastNamed? hother
        rw [eq_of_beq hname, heq] at hlast
        rw [hlast, Option.some_or]

theorem exists_lastNamed?_iff :
    (∃ entry, lastNamed? entries name = some entry) ↔ name ∈ entries.map (·.name) := by
  constructor
  · rintro ⟨entry, h⟩
    obtain ⟨hmem, rfl⟩ := lastNamed?_eq_some h
    exact List.mem_map_of_mem hmem
  · intro h
    obtain ⟨entry, hmem, rfl⟩ := List.mem_map.1 h
    exact exists_lastNamed? hmem

theorem mem_names_withoutReplaced_iff :
    name ∈ (withoutReplaced entries).map (·.name) ↔ name ∈ entries.map (·.name) := by
  rw [← exists_lastNamed?_iff, ← exists_lastNamed?_iff, lastNamed?_withoutReplaced]

/-- Where no name comes twice, every entry is found under its own. -/
theorem lastNamed?_of_nodup (h : (entries.map (·.name)).Nodup) (hmem : entry ∈ entries) :
    lastNamed? entries entry.name = some entry := by
  obtain ⟨last, hlast⟩ := exists_lastNamed? hmem
  obtain ⟨hlast', hname⟩ := lastNamed?_eq_some hlast
  rw [hlast, List.inj_on_of_nodup_map h hlast' hmem hname]

/-- Where no name comes twice, the entry of a name is found among those that are kept exactly if it
is kept. -/
theorem lastNamed?_filter_of_nodup (h : (entries.map (·.name)).Nodup) (name : String) :
    lastNamed? (entries.filter p) name = (lastNamed? entries name).filter p := by
  cases hlast : lastNamed? entries name with
  | none =>
    rw [lastNamed?_eq_none_iff] at hlast
    exact lastNamed?_eq_none_iff.2 fun entry hentry ↦ hlast entry (List.mem_of_mem_filter hentry)
  | some entry =>
    obtain ⟨hmem, hname⟩ := lastNamed?_eq_some hlast
    by_cases hp : p entry
    case pos => rw [lastNamed?_filter hlast hp, Option.filter_some, if_pos hp]
    case neg =>
      rw [Option.filter_some, if_neg hp, lastNamed?_eq_none_iff]
      rintro other hother hsame
      obtain ⟨hother, hkept⟩ := List.mem_filter.1 hother
      obtain rfl := List.inj_on_of_nodup_map h hother hmem (hsame.trans hname.symm)
      exact hp hkept

namespace Catalogue

/-! ### Sorted names -/

theorem nodup_eraseDups (names : List String) : names.eraseDups.Nodup := by
  cases names with
  | nil => simp
  | cons first others =>
    rw [List.eraseDups_cons, List.nodup_cons]
    exact ⟨by simp, nodup_eraseDups (others.filter fun other ↦ !other == first)⟩
termination_by names.length
decreasing_by exact Nat.lt_succ_of_le (List.length_filter_le _ _)

/-- The names of entries are listed in order, and none of them twice. -/
theorem pairwise_sortedNames (entries : List TypeEntry) :
    (sortedNames entries).Pairwise (· < ·) := by
  have hsorted : (sortedNames entries).Pairwise (· ≤ ·) := List.pairwise_mergeSort' (· ≤ ·) _
  have hnodup : (sortedNames entries).Nodup := List.nodup_mergeSort.2 (nodup_eraseDups _)
  exact (hsorted.and hnodup).imp fun h ↦ lt_of_le_of_ne h.1 h.2

theorem mem_sortedNames_iff : name ∈ sortedNames entries ↔ name ∈ entries.map (·.name) := by
  rw [sortedNames, List.mem_mergeSort, List.mem_eraseDups]

/-! ### Look-ups in an extended catalogue -/

variable (extra : List TypeEntry)

theorem nodup_names_extended : ((extended extra).entries.map (·.name)).Nodup :=
  nodup_names_withoutReplaced _

theorem lastNamed?_results_extended (name : String) :
    lastNamed? (extended extra).results name =
      (lastNamed? extra name).or (lastNamed? standard.results name) := by
  rw [results, extended, lastNamed?_cons, lastNamed?_withoutReplaced, lastNamed?_append,
    Option.or_assoc, results, lastNamed?_cons]
  rfl

/-- The arguments are the results that are kept: `void` is none, and no other name comes twice. -/
theorem lastNamed?_arguments_extended (name : String) :
    lastNamed? (extended extra).arguments name =
      (lastNamed? (extended extra).results name).filter (·.isPassable) := by
  have hvoid : (if Vocabulary.void.name = name then some Vocabulary.void else none).filter
      (·.isPassable) = none := by
    split
    · rfl
    · rfl
  rw [arguments, lastNamed?_filter_of_nodup (nodup_names_extended extra), results,
    lastNamed?_cons]
  cases lastNamed? (extended extra).entries name with
  | none => rw [Option.none_or, hvoid, Option.filter_none]
  | some entry => rw [Option.some_or]

/-- An entry that can be passed stands for itself, as a result and as an argument. -/
theorem lastNamed?_extended_of_isPassable (hmem : entry ∈ (extended extra).results)
    (hpassable : entry.isPassable) :
    lastNamed? (extended extra).results entry.name = some entry ∧
      lastNamed? (extended extra).arguments entry.name = some entry := by
  have hentries : entry ∈ (extended extra).entries := by
    refine (List.mem_cons.1 hmem).resolve_left ?_
    rintro rfl
    cases hpassable
  have hlast := lastNamed?_of_nodup (nodup_names_extended extra) hentries
  exact ⟨lastNamed?_cons_of_some hlast _, lastNamed?_filter hlast hpassable⟩

/-- A spelling stands for the last further entry of its name, and without one for what it stands for
in the standard vocabulary. -/
theorem resultType?_extended (spelling : String) :
    (extended extra).resultType? spelling =
      (lastNamed? extra (Types.bareName spelling)).or (standard.resultType? spelling) :=
  lastNamed?_results_extended extra _

/-- As an argument a spelling stands for what it stands for as a result, if that can be passed. -/
theorem argumentType?_extended (spelling : String) :
    (extended extra).argumentType? spelling =
      ((extended extra).resultType? spelling).filter (·.isPassable) :=
  lastNamed?_arguments_extended extra _

theorem mem_resultNames_extended :
    name ∈ (extended extra).resultNames ↔
      name = "void" ∨ name ∈ Vocabulary.standard.map (·.name) ∨ name ∈ extra.map (·.name) := by
  rw [resultNames, mem_sortedNames_iff, results, List.map_cons, List.mem_cons, extended,
    mem_names_withoutReplaced_iff, List.map_append, List.mem_append]
  rfl

theorem mem_argumentNames_extended :
    name ∈ (extended extra).argumentNames ↔ ∃ entry,
      (lastNamed? extra name).or (lastNamed? standard.results name) = some entry ∧
        entry.category ≠ .void ∧ entry.packing ≠ .objectList := by
  rw [argumentNames, mem_sortedNames_iff, ← exists_lastNamed?_iff, lastNamed?_arguments_extended,
    lastNamed?_results_extended]
  simp only [Option.filter_eq_some_iff, TypeEntry.isPassable_iff]

/-- **What an extended catalogue holds.** A spelling stands for the last of the further entries that
have its bare name, and without one for what it stands for in the standard vocabulary. As an
argument it stands for that same entry, unless that is void or a list: then for nothing. The names
of the results are `void`, the standard names and the further ones, and those of the arguments are
the ones among them that do not stand for void or a list, both in strictly increasing order. -/
theorem extended_exact :
    (∀ name entry, lastNamed? extra name = some entry ↔
      ∃ before after, extra = before ++ entry :: after ∧ entry.name = name ∧
        ∀ later ∈ after, later.name ≠ name) ∧
    (∀ spelling, (extended extra).resultType? spelling =
      (lastNamed? extra (Types.bareName spelling)).or (standard.resultType? spelling)) ∧
    (∀ spelling, (extended extra).argumentType? spelling =
      ((extended extra).resultType? spelling).filter fun entry ↦
        entry.category ≠ .void ∧ entry.packing ≠ .objectList) ∧
    ((extended extra).resultNames.Pairwise (· < ·) ∧
      ∀ name, name ∈ (extended extra).resultNames ↔
        name = "void" ∨ name ∈ Vocabulary.standard.map (·.name) ∨ name ∈ extra.map (·.name)) ∧
    (extended extra).argumentNames.Pairwise (· < ·) ∧
      ∀ name, name ∈ (extended extra).argumentNames ↔ ∃ entry,
        (lastNamed? extra name).or (lastNamed? standard.results name) = some entry ∧
          entry.category ≠ .void ∧ entry.packing ≠ .objectList := by
  refine ⟨fun _ _ ↦ lastNamed?_eq_some_iff, resultType?_extended extra, fun spelling ↦ ?_,
    ⟨pairwise_sortedNames _, fun _ ↦ mem_resultNames_extended extra⟩, pairwise_sortedNames _,
    fun _ ↦ mem_argumentNames_extended extra⟩
  rw [argumentType?_extended]
  congr 1
  funext entry
  rw [Bool.eq_iff_iff, TypeEntry.isPassable_iff, decide_eq_true_iff]

end Catalogue

end BindingGlue
