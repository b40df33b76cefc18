import Mathlib.Algebra.GroupWithZero.Nat
import Mathlib.Data.List.Basic
import Mathlib.Data.List.Infix
import BindingGlue.Text.Blank

/-!
# Occurrences

How often a pattern occurs in a text. The places are counted, so two occurrences may overlap. A
pattern occurs no more often than any part of it (`occurrences_le_of_isInfix`), and what it takes to
count two characters in a row is the characters at the ends of the parts of a text
(`occurrences_pair_append`).

A text is counted piece by piece. A character that is not in the pattern separates what stands
before it from what stands after it (`occurrences_append_cons`), so the lines of a text may be
counted one at a time (`occurrences_intercalate`). A pattern that ends in a mark which is nowhere
else in a text occurs in it if the text before the mark ends in the rest of the pattern
(`occurrences_marked`).
-/

namespace BindingGlue.Text

variable {pattern s t q : List Char} {c d : Char}

/-- The number of places of a text at which a pattern occurs. -/
def occurrences (pattern s : List Char) : Nat :=
  s.tails.countP fun t ↦ pattern.isPrefixOf t

theorem occurrences_nil (h : pattern ≠ []) : occurrences pattern [] = 0 := by
  cases pattern with
  | nil => exact absurd rfl h
  | cons d ds => rfl

theorem occurrences_cons (pattern s : List Char) (c : Char) :
    occurrences pattern (c :: s) =
      occurrences pattern s + if pattern.isPrefixOf (c :: s) then 1 else 0 := by
  rw [occurrences, List.tails_cons, List.countP_cons]
  rfl

/-- A pattern does not occur in a text that has one of its characters too rarely. -/
theorem occurrences_eq_zero_of_count (h : s.count c < pattern.count c) :
    occurrences pattern s = 0 := by
  rw [occurrences, List.countP_eq_zero]
  intro t ht hprefix
  have hpattern : pattern.Sublist t := (List.isPrefixOf_iff_prefix.1 hprefix).sublist
  have htail : t.Sublist s := ((List.mem_tails t s).1 ht).sublist
  have hcount := (hpattern.trans htail).count_le c
  omega

/-- A pattern does not occur in a text that lacks one of its characters. -/
theorem occurrences_eq_zero (hc : c ∈ pattern) (hs : c ∉ s) : occurrences pattern s = 0 := by
  refine occurrences_eq_zero_of_count (c := c) ?_
  rw [List.count_eq_zero.2 hs]
  exact List.count_pos_iff.2 hc

/-- What occurs in a text is what stands in it. -/
theorem occurrences_pos_iff : 0 < occurrences pattern s ↔ pattern <:+: s := by
  rw [occurrences, List.countP_pos_iff, List.infix_iff_prefix_suffix]
  simp only [List.mem_tails, List.isPrefixOf_iff_prefix]
  exact exists_congr fun _ ↦ and_comm

/-! ### Parts of a pattern -/

/-- The rest of a pattern occurs wherever the pattern does, one place further on. -/
theorem occurrences_cons_add_le (pattern s : List Char) (c : Char) :
    occurrences (c :: pattern) s + (if pattern.isPrefixOf s then 1 else 0) ≤
      occurrences pattern s := by
  induction s with
  | nil => simp [occurrences]
  | cons d s ih =>
    have hhead : (if (c :: pattern).isPrefixOf (d :: s) then 1 else 0) ≤
        if pattern.isPrefixOf s then 1 else 0 := by
      rw [List.isPrefixOf_cons_cons]
      cases pattern.isPrefixOf s with
      | true => simp [apply_ite (· ≤ 1)]
      | false => simp
    rw [occurrences_cons, occurrences_cons pattern]
    omega

/-- A pattern occurs no more often than what stands in it. -/
theorem occurrences_le_of_isInfix (h : q <:+: pattern) (s : List Char) :
    occurrences pattern s ≤ occurrences q s := by
  obtain ⟨front, rest, rfl⟩ := h
  have hrest : occurrences (q ++ rest) s ≤ occurrences q s := by
    refine List.countP_mono_left fun t _ ht ↦ ?_
    rw [List.isPrefixOf_iff_prefix] at ht ⊢
    exact (List.prefix_append q rest).trans ht
  rw [List.append_assoc]
  induction front with
  | nil => exact hrest
  | cons c front ih =>
    have hcons := occurrences_cons_add_le (front ++ (q ++ rest)) s c
    rw [List.cons_append]
    omega

theorem occurrences_eq_zero_of_isInfix (h : q <:+: pattern) (hzero : occurrences q s = 0) :
    occurrences pattern s = 0 :=
  Nat.le_zero.1 (hzero ▸ occurrences_le_of_isInfix h s)

/-- A pattern in a text occurs as often as a part of it, if the part occurs at most once. -/
theorem occurrences_eq_ite {b : Bool} (hq : q <:+: pattern)
    (hcount : occurrences q s = if b then 1 else 0) (hs : b → pattern <:+: s) :
    occurrences pattern s = if b then 1 else 0 := by
  have hle := occurrences_le_of_isInfix hq s
  cases b with
  | false => simp_all
  | true =>
    have hpos := occurrences_pos_iff.2 (hs rfl)
    rw [if_pos rfl] at hcount ⊢
    omega

/-! ### Separators -/

theorem prefix_append_cons_iff (hc : c ∉ pattern) : pattern <+: s ++ c :: t ↔ pattern <+: s := by
  refine ⟨fun h ↦ ?_, fun h ↦ h.trans (List.prefix_append _ _)⟩
  have hmark : s ++ [c] <+: s ++ c :: t := ⟨t, by simp⟩
  -- a pattern that reached the separator would contain it
  rcases List.prefix_or_prefix_of_prefix h hmark with hshort | hlong
  · rcases List.prefix_concat_iff.1 hshort with rfl | hprefix
    · exact absurd (by simp) hc
    · exact hprefix
  · exact absurd (hlong.subset (by simp)) hc

theorem isPrefixOf_append_cons (hc : c ∉ pattern) :
    pattern.isPrefixOf (s ++ c :: t) = pattern.isPrefixOf s := by
  rw [Bool.eq_iff_iff, List.isPrefixOf_iff_prefix, List.isPrefixOf_iff_prefix]
  exact prefix_append_cons_iff hc

/-- A character that is not in the pattern separates the two sides of a text. -/
theorem occurrences_append_cons (hpattern : pattern ≠ []) (hc : c ∉ pattern) :
    occurrences pattern (s ++ c :: t) = occurrences pattern s + occurrences pattern t := by
  induction s with
  | nil =>
    have hprefix : pattern.isPrefixOf (c :: t) = pattern.isPrefixOf [] :=
      isPrefixOf_append_cons (s := []) hc
    have hnil : pattern.isPrefixOf [] = false := by
      cases pattern with
      | nil => exact absurd rfl hpattern
      | cons d ds => rfl
    rw [List.nil_append, occurrences_cons, occurrences_nil hpattern, hprefix, hnil]
    simp
  | cons d s ih =>
    have hprefix : pattern.isPrefixOf (d :: (s ++ c :: t)) = pattern.isPrefixOf (d :: s) :=
      isPrefixOf_append_cons (s := d :: s) hc
    rw [List.cons_append, occurrences_cons, occurrences_cons, ih, hprefix]
    omega

/-- Such characters in front of a text add nothing. -/
theorem occurrences_append_right (hpattern : pattern ≠ []) (hs : ∀ c ∈ s, c ∉ pattern) :
    occurrences pattern (s ++ t) = occurrences pattern t := by
  induction s with
  | nil => rfl
  | cons c s ih =>
    have hdrop := occurrences_append_cons (s := []) (t := s ++ t) hpattern (hs c (by simp))
    rw [List.nil_append, occurrences_nil hpattern, Nat.zero_add] at hdrop
    rw [List.cons_append, hdrop, ih fun d hd ↦ hs d (List.mem_cons_of_mem c hd)]

/-- The pieces of a joined text are counted one at a time. -/
theorem occurrences_intercalate {separator : String} (hpattern : pattern ≠ [])
    (hne : separator.toList ≠ []) (hseparator : ∀ c ∈ separator.toList, c ∉ pattern)
    (pieces : List String) :
    occurrences pattern (separator.intercalate pieces).toList =
      (pieces.map fun piece ↦ occurrences pattern piece.toList).sum := by
  induction pieces with
  | nil => exact occurrences_nil hpattern
  | cons piece pieces ih =>
    cases pieces with
    | nil => simp
    | cons next pieces =>
      obtain ⟨c, marks, hmarks⟩ := List.exists_cons_of_ne_nil hne
      rw [hmarks] at hseparator
      have htext : (separator.intercalate (piece :: next :: pieces)).toList =
          piece.toList ++ c :: (marks ++ (separator.intercalate (next :: pieces)).toList) := by
        simp [String.intercalate_cons_cons, hmarks]
      rw [htext, occurrences_append_cons hpattern (hseparator c (by simp)),
        occurrences_append_right hpattern fun d hd ↦ hseparator d (List.mem_cons_of_mem c hd), ih]
      simp

/-- The pieces of a joined text stand in it. -/
theorem toList_isInfix_intercalate {separator piece : String} {pieces : List String}
    (h : piece ∈ pieces) : piece.toList <:+: (separator.intercalate pieces).toList := by
  induction pieces with
  | nil => cases h
  | cons first pieces ih =>
    cases pieces with
    | nil =>
      obtain rfl := List.mem_singleton.1 h
      simp
    | cons next pieces =>
      rw [String.intercalate_cons_cons, String.toList_append, String.toList_append,
        List.append_assoc]
      rcases List.mem_cons.1 h with rfl | h
      · exact (List.prefix_append _ _).isInfix
      · exact (ih h).trans ((List.suffix_append _ _).trans (List.suffix_append _ _)).isInfix

theorem toList_isInfix_intercalate_of_append (front : String) {separator piece : String}
    {pieces : List String} (h : front ++ piece ∈ pieces) :
    piece.toList <:+: (separator.intercalate pieces).toList := by
  have hend : piece.toList <:+: (front ++ piece).toList := by
    rw [String.toList_append]
    exact (List.suffix_append _ _).isInfix
  exact hend.trans (toList_isInfix_intercalate h)

theorem sum_occurrences_eq_zero {pieces : List String}
    (h : ∀ piece ∈ pieces, occurrences pattern piece.toList = 0) :
    (pieces.map fun piece ↦ occurrences pattern piece.toList).sum = 0 := by
  rw [List.sum_eq_zero_iff_forall_eq_nat]
  intro n hn
  obtain ⟨piece, hpiece, rfl⟩ := List.mem_map.1 hn
  exact h piece hpiece

/-! ### Marks -/

theorem isPrefixOf_marked (hs : c ∉ s) (ht : c ∉ t) :
    (q ++ [c]).isPrefixOf (s ++ c :: t) = (s == q) := by
  rw [Bool.eq_iff_iff, List.isPrefixOf_iff_prefix, beq_iff_eq]
  constructor
  · rintro ⟨rest, hrest⟩
    rw [List.append_assoc, List.singleton_append] at hrest
    exact ((List.append_cons_inj_of_notMem hs ht).1 hrest.symm).1
  · rintro rfl
    exact ⟨t, by simp⟩

/-- A pattern that ends in a mark occurs, in a text with one such mark, as often as the rest of the
pattern stands right before the mark. -/
theorem occurrences_append_mark (hs : c ∉ s) (ht : c ∉ t) :
    occurrences (q ++ [c]) (s ++ c :: t) = s.tails.count q := by
  have hafter : occurrences (q ++ [c]) t = 0 := occurrences_eq_zero (by simp) ht
  induction s with
  | nil =>
    rw [List.nil_append, occurrences_cons, hafter, ← List.nil_append (c :: t),
      isPrefixOf_marked hs ht]
    simp [List.count_cons]
  | cons d s ih =>
    have hprefix : (q ++ [c]).isPrefixOf (d :: (s ++ c :: t)) = (d :: s == q) :=
      isPrefixOf_marked hs ht
    rw [List.cons_append, occurrences_cons, ih (fun h ↦ hs (List.mem_cons_of_mem d h)), hprefix,
      List.tails_cons, List.count_cons]

theorem count_tails_append (q s : List Char) : (s ++ q).tails.count q = 1 := by
  induction s with
  | nil =>
    cases q with
    | nil => rfl
    | cons d q =>
      have hlonger : d :: q ∉ q.tails := by
        intro h
        have hlength := ((List.mem_tails _ _).1 h).length_le
        rw [List.length_cons] at hlength
        omega
      rw [List.nil_append, List.tails_cons, List.count_cons_self, List.count_eq_zero.2 hlonger]
  | cons d s ih =>
    have hne : d :: (s ++ q) ≠ q := by
      intro h
      have hlength := congrArg List.length h
      simp only [List.length_cons, List.length_append] at hlength
      omega
    rw [List.cons_append, List.tails_cons, List.count_cons_of_ne hne, ih]

/-- A pattern that ends in a mark occurs once in a text that has the mark once, after the rest of
the pattern. -/
theorem occurrences_marked (hq : c ∉ q) (hs : c ∉ s) (ht : c ∉ t) :
    occurrences (q ++ [c]) (s ++ q ++ c :: t) = 1 := by
  rw [occurrences_append_mark (by simp [hs, hq]) ht, count_tails_append]

/-! ### Two characters in a row -/

@[simp]
theorem occurrences_pair_nil (c d : Char) : occurrences [c, d] [] = 0 :=
  rfl

theorem occurrences_pair_cons (c d a : Char) (s : List Char) :
    occurrences [c, d] (a :: s) =
      occurrences [c, d] s + if a = c ∧ s.head? = some d then 1 else 0 := by
  rw [occurrences_cons]
  cases s with
  | nil => simp [List.isPrefixOf]
  | cons b s => simp [List.isPrefixOf, @eq_comm _ c, @eq_comm _ d]

/-- Two characters stand in a row in either part of a text, or where the parts meet. -/
theorem occurrences_pair_append (c d : Char) (s t : List Char) :
    occurrences [c, d] (s ++ t) = occurrences [c, d] s + occurrences [c, d] t +
      if s.getLast? = some c ∧ t.head? = some d then 1 else 0 := by
  induction s with
  | nil => simp
  | cons a s ih =>
    rw [List.cons_append, occurrences_pair_cons, occurrences_pair_cons, ih]
    cases s with
    | nil => simp
    | cons b s =>
      rw [List.getLast?_cons_cons, List.cons_append, List.head?_cons, List.head?_cons]
      omega

/-- Two characters that are in a row neither in a piece nor in the separator, and that meet at none
of its ends, are in a row nowhere. -/
theorem occurrences_pair_intercalate {separator : String} {pieces : List String}
    (hseparator : occurrences [c, d] separator.toList = 0) (hne : separator.toList ≠ [])
    (hhead : separator.toList.head? ≠ some d) (hlast : separator.toList.getLast? ≠ some c)
    (h : ∀ piece ∈ pieces, occurrences [c, d] piece.toList = 0) :
    occurrences [c, d] (separator.intercalate pieces).toList = 0 := by
  induction pieces with
  | nil => rfl
  | cons piece pieces ih =>
    obtain ⟨hpiece, hpieces⟩ := List.forall_mem_cons.1 h
    cases pieces with
    | nil => simpa using hpiece
    | cons next pieces =>
      rw [String.intercalate_cons_cons, String.toList_append, String.toList_append,
        occurrences_pair_append, occurrences_pair_append, hpiece, hseparator, ih hpieces]
      simp [hhead, hlast, List.getLast?_append, hne]

end BindingGlue.Text
