import Mathlib
import BindingGlue.Naming
import BindingGlue.Proofs.Text.Runs

/-!
# Derived names

A name loses a prefix exactly if the prefix marks it, that is, if an upper-case character comes next
(`Marks`, `afterMarkedPrefix?_eq_some_iff`). What is left starts with the lower case of that
character, which may be two characters long, but never so long that it makes up for what was dropped
(`getterKey_eq_self_iff`). Of ASCII characters the lower case is one character that tells the
upper-case ones apart (`lowerFirst_inj_of_ascii`).

The typed name of a method and the key of the property that it sets or reads have a line feed only
if its own name has one, and the same holds of every other character that comes before the digits,
such as the blank and the full stop: a prefix is dropped and the first character goes to lower case,
where no other character becomes one of these (`not_mem_lower`).
-/

namespace BindingGlue

variable {c d : Char}

namespace Text

/-- The lower-case characters come after the digits. -/
theorem lt_of_lowerRun? {n m : Nat} (h : lowerRun? n = some m) : 0x30 < m := by
  have htargets : ∀ entry ∈ lowerRuns, 0x30 < entry.2 := by decide +kernel
  obtain ⟨⟨run, target⟩, hfind, rfl⟩ := Option.map_eq_some_iff.1 h
  have htarget := htargets _ (List.mem_of_find?_eq_some hfind)
  exact Nat.lt_of_lt_of_le htarget (Nat.le_add_right _ _)

theorem toLower_ne (hd : d.toNat < 0x30) (h : c ≠ d) : c.toLower ≠ d := by
  intro heq
  have halpha : c.isAlpha = false := by
    rw [← Char.isLower_toLower_eq_isAlpha, heq]
    by_contra hlower
    have halphanum : d.isAlphanum := by
      rw [Bool.not_eq_false] at hlower
      simp [Char.isAlphanum, Char.isAlpha, hlower]
    have hletter := (toNat_of_isAlphanum halphanum).1
    omega
  have hupper : ¬c.isUpper := by
    rw [Char.isAlpha, Bool.or_eq_false_iff] at halpha
    simp [halpha.1]
  rw [Char.toLower_eq_of_not_isUpper hupper] at heq
  exact h heq

/-- A character before the digits is in the lower case of no other one. The null character is left
out, since it stands for a number that is none of a character. -/
theorem not_mem_lower (hd : 0 < d.toNat ∧ d.toNat < 0x30) (h : c ≠ d) : d ∉ lower c := by
  rw [lower]
  split
  case isTrue => simpa using (toLower_ne hd.2 h).symm
  case isFalse =>
    split
    case isTrue =>
      intro hmem
      simp only [List.mem_cons, List.not_mem_nil, or_false] at hmem
      rcases hmem with rfl | rfl
      all_goals exact absurd hd (by decide)
    case isFalse =>
      split
      case h_1 n hrun =>
        have hn := lt_of_lowerRun? hrun
        have hne : Char.ofNat n ≠ d := by
          rintro rfl
          rw [Char.toNat_ofNat] at hd
          split at hd
          all_goals omega
        simpa using hne.symm
      case h_2 => simpa using h.symm

theorem not_mem_lowerFirst (hd : 0 < d.toNat ∧ d.toNat < 0x30) {s : List Char} (h : d ∉ s) :
    d ∉ lowerFirst s := by
  cases s with
  | nil => exact h
  | cons c cs =>
    rw [List.mem_cons, not_or] at h
    rw [lowerFirst, List.mem_append, not_or]
    exact ⟨not_mem_lower hd (Ne.symm h.1), h.2⟩

/-! ### Texts that start in upper case -/

/-- The text starts with an upper-case character. -/
def StartsUpper (s : List Char) : Prop :=
  ∃ c ∈ s.head?, isUpper c

theorem startsUpper_iff {s : List Char} :
    StartsUpper s ↔ ∃ c cs, s = c :: cs ∧ isUpper c := by
  cases s with
  | nil => simp [StartsUpper]
  | cons c cs => simp [StartsUpper]

/-- The lower case of a character has one more character at most. -/
theorem length_lower_le (c : Char) : (lower c).length ≤ 2 := by
  rw [lower]
  split
  case isTrue => simp
  case isFalse =>
    split
    case isTrue => simp
    case isFalse => split <;> simp

theorem length_lowerFirst_le (s : List Char) : (lowerFirst s).length ≤ s.length + 1 := by
  cases s with
  | nil => exact Nat.zero_le _
  | cons c cs =>
    have hlower := length_lower_le c
    rw [lowerFirst, List.length_append, List.length_cons]
    omega

theorem lower_of_ascii (h : c.toNat < 0x80) : lower c = [c.toLower] := by
  rw [lower, if_pos h]

theorem toUpper_of_isUpper (h : c.toNat < 0x80) (hupper : isUpper c) : c.toUpper = c := by
  have hletter : c.isUpper := by simpa [isUpper, Nat.not_le.2 h] using hupper
  exact Char.toUpper_eq_of_not_isLower (Char.not_isLower_of_isUpper hletter)

/-- ASCII texts that start in upper case can be told apart by what they are in lower case. -/
theorem lowerFirst_inj_of_ascii {s t : List Char} (hs : StartsUpper s) (ht : StartsUpper t)
    (hsascii : ∀ c ∈ s, c.toNat < 0x80) (htascii : ∀ c ∈ t, c.toNat < 0x80)
    (h : lowerFirst s = lowerFirst t) : s = t := by
  obtain ⟨c, cs, rfl, hc⟩ := startsUpper_iff.1 hs
  obtain ⟨d, ds, rfl, hd⟩ := startsUpper_iff.1 ht
  have hcascii := hsascii c List.mem_cons_self
  have hdascii := htascii d List.mem_cons_self
  rw [lowerFirst, lowerFirst, lower_of_ascii hcascii, lower_of_ascii hdascii,
    List.singleton_append, List.singleton_append] at h
  obtain ⟨hlower, rfl⟩ := List.cons.inj h
  have hsame : c = d := by
    calc c = c.toLower.toUpper := by
          rw [Char.toUpper_toLower_eq_toUpper, toUpper_of_isUpper hcascii hc]
      _ = d.toLower.toUpper := by rw [hlower]
      _ = d := by rw [Char.toUpper_toLower_eq_toUpper, toUpper_of_isUpper hdascii hd]
  rw [hsame]

end Text

namespace Naming

open Text

/-! ### Marked prefixes -/

/-- What follows a prefix is the rest of the name, from an upper-case character on. -/
theorem afterMarkedPrefix?_eq_some_iff {head name rest : List Char} :
    afterMarkedPrefix? head name = some rest ↔ name = head ++ rest ∧ StartsUpper rest := by
  constructor
  · intro h
    rw [afterMarkedPrefix?] at h
    split at h
    case h_1 c cs hsplit =>
      split at h
      case isTrue hc =>
        obtain rfl := Option.some.inj h
        exact ⟨(List.isPrefixOf?_eq_some_iff_append_eq.1 hsplit).symm, c, rfl, hc⟩
      case isFalse => cases h
    case h_2 => cases h
  · rintro ⟨rfl, hrest⟩
    obtain ⟨c, cs, rfl, hc⟩ := startsUpper_iff.1 hrest
    have hsplit : head.isPrefixOf? (head ++ c :: cs) = some (c :: cs) :=
      List.isPrefixOf?_eq_some_iff_append_eq.2 rfl
    simp only [afterMarkedPrefix?, hsplit, hc, if_true]

/-- The name starts with the prefix, and an upper-case character comes next. -/
def Marks (head name : String) : Prop :=
  ∃ rest, StartsUpper rest ∧ name.toList = head.toList ++ rest

theorem afterMarkedPrefix?_eq_none_iff {head name : String} :
    afterMarkedPrefix? head.toList name.toList = none ↔ ¬ Marks head name := by
  rw [Option.eq_none_iff_forall_ne_some, Marks, not_exists]
  refine forall_congr' fun rest ↦ not_congr ?_
  rw [afterMarkedPrefix?_eq_some_iff, and_comm]

theorem not_mem_afterMarkedPrefix? {head name rest : List Char}
    (h : afterMarkedPrefix? head name = some rest) (hname : d ∉ name) : d ∉ rest := by
  obtain ⟨rfl, -⟩ := afterMarkedPrefix?_eq_some_iff.1 h
  exact fun hmem ↦ hname (List.mem_append_right _ hmem)

/-! ### Typed names -/

/-- The prefix is not empty and marks the name, so the typed name goes without it. -/
def LosesPrefix (head name : String) : Prop :=
  head ≠ "" ∧ Marks head name

theorem stripLegacyPrefix_of_append {head name : String} {rest : List Char} (hhead : head ≠ "")
    (hrest : StartsUpper rest) (hname : name.toList = head.toList ++ rest) :
    stripLegacyPrefix head name = String.ofList (lowerFirst rest) := by
  rw [stripLegacyPrefix, if_neg (by simpa using hhead),
    afterMarkedPrefix?_eq_some_iff.2 ⟨hname, hrest⟩]

theorem stripLegacyPrefix_of_keeps {head name : String} (h : ¬ LosesPrefix head name) :
    stripLegacyPrefix head name = name := by
  rw [stripLegacyPrefix]
  split
  case isTrue => rfl
  case isFalse hhead =>
    have hmarks : ¬ Marks head name := fun hmarks ↦ h ⟨by simpa using hhead, hmarks⟩
    rw [afterMarkedPrefix?_eq_none_iff.2 hmarks]

/-! ### Keys of properties -/

theorem setterKey_append (rest : String) :
    setterKey ("set" ++ rest) = String.ofList (lowerFirst rest.toList) := by
  rw [setterKey, String.toList_append]
  rfl

theorem getterKey_is {name : String} {rest : List Char} (hrest : StartsUpper rest)
    (hname : name.toList = "is".toList ++ rest) :
    getterKey name = String.ofList (lowerFirst rest) := by
  have hafter : afterMarkedPrefix? ['i', 's'] name.toList = some rest :=
    afterMarkedPrefix?_eq_some_iff.2 ⟨by simpa using hname, hrest⟩
  rw [getterKey, hafter, Option.some_or]

theorem getterKey_get {name : String} {rest : List Char} (hrest : StartsUpper rest)
    (hname : name.toList = "get".toList ++ rest) :
    getterKey name = String.ofList (lowerFirst rest) := by
  have hafter : afterMarkedPrefix? ['g', 'e', 't'] name.toList = some rest :=
    afterMarkedPrefix?_eq_some_iff.2 ⟨by simpa using hname, hrest⟩
  -- a name that starts with the one prefix does not start with the other
  have hother : afterMarkedPrefix? ['i', 's'] name.toList = none := by
    rw [hname]
    rfl
  rw [getterKey, hother, hafter, Option.none_or]

theorem getterKey_of_not_marks {name : String} (his : ¬ Marks "is" name)
    (hget : ¬ Marks "get" name) : getterKey name = name := by
  have hisnone := afterMarkedPrefix?_eq_none_iff.2 his
  have hgetnone := afterMarkedPrefix?_eq_none_iff.2 hget
  rw [String.toList_ofList] at hisnone hgetnone
  rw [getterKey, hisnone, hgetnone, Option.none_or]

/-- A name is longer than what is left of it, since a lower case adds one character at most. -/
theorem ofList_lowerFirst_ne {head name : String} {rest : List Char}
    (hhead : 2 ≤ head.toList.length) (hname : name.toList = head.toList ++ rest) :
    String.ofList (lowerFirst rest) ≠ name := by
  rintro rfl
  have hlength := congrArg List.length hname
  have hle := length_lowerFirst_le rest
  rw [String.toList_ofList, List.length_append] at hlength
  omega

/-- A name is its own key exactly if no prefix marks it. -/
theorem getterKey_eq_self_iff {name : String} :
    getterKey name = name ↔ ¬ (Marks "is" name ∨ Marks "get" name) := by
  constructor
  · rintro hkey (⟨rest, hrest, hname⟩ | ⟨rest, hrest, hname⟩)
    · rw [getterKey_is hrest hname] at hkey
      exact ofList_lowerFirst_ne (by simp) hname hkey
    · rw [getterKey_get hrest hname] at hkey
      exact ofList_lowerFirst_ne (by simp) hname hkey
  · intro h
    rw [not_or] at h
    exact getterKey_of_not_marks h.1 h.2

/-! ### Characters -/

theorem not_mem_stripLegacyPrefix (hd : 0 < d.toNat ∧ d.toNat < 0x30) (head : String)
    {name : String} (hname : d ∉ name.toList) : d ∉ (stripLegacyPrefix head name).toList := by
  rw [stripLegacyPrefix]
  split
  case isTrue => exact hname
  case isFalse =>
    split
    case h_1 rest hrest =>
      rw [String.toList_ofList]
      exact not_mem_lowerFirst hd (not_mem_afterMarkedPrefix? hrest hname)
    case h_2 => exact hname

theorem not_mem_setterKey (hd : 0 < d.toNat ∧ d.toNat < 0x30) {name : String}
    (hname : d ∉ name.toList) : d ∉ (setterKey name).toList := by
  rw [setterKey, String.toList_ofList]
  exact not_mem_lowerFirst hd fun hmem ↦ hname (List.mem_of_mem_drop hmem)

theorem not_mem_getterKey (hd : 0 < d.toNat ∧ d.toNat < 0x30) {name : String}
    (hname : d ∉ name.toList) : d ∉ (getterKey name).toList := by
  rw [getterKey]
  split
  case h_1 rest hrest =>
    rw [String.toList_ofList]
    refine not_mem_lowerFirst hd ?_
    rcases Option.or_eq_some_iff.1 hrest with hrest | ⟨-, hrest⟩
    all_goals exact not_mem_afterMarkedPrefix? hrest hname
  case h_2 => exact hname

end Naming

end BindingGlue
