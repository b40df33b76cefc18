import Mathlib.Data.List.DropRight
import BindingGlue.Text.Blank
import BindingGlue.Text.Word

/-!
# Runs of characters

The readers of this library cut a text at the end of a run: a run of blanks, of word characters, of
the characters that a list may hold. This module says where such a cut falls. A run ends where the
next character does not belong to it, which is written `∀ c ∈ rest.head?, p c = false`, so that a
run may also end with the text.

The classes of characters that meet at a cut are disjoint: a blank is no word character
(`isWord_eq_false_of_isBlank`), which is read off the two tables.
-/

namespace BindingGlue.Text

variable {p : Char → Bool} {run rest s left right : List Char} {text : String}

/-! ### Cuts -/

/-- A run is all that is taken if the text after it does not go on with it. -/
theorem takeWhile_append_of_head? (hrun : ∀ c ∈ run, p c) (hrest : ∀ c ∈ rest.head?, p c = false) :
    (run ++ rest).takeWhile p = run := by
  rw [List.takeWhile_append_of_pos hrun]
  cases rest with
  | nil => simp
  | cons c cs => simp [hrest c (by simp)]

/-- What is left after a run is the text after it, if that does not go on with the run. -/
theorem dropWhile_append_of_head? (hrun : ∀ c ∈ run, p c) (hrest : ∀ c ∈ rest.head?, p c = false) :
    (run ++ rest).dropWhile p = rest := by
  rw [List.dropWhile_append_of_pos hrun]
  cases rest with
  | nil => rfl
  | cons c cs => simp [hrest c (by simp)]

/-- A run that ends within a text ends there whatever follows the text. -/
theorem takeWhile_append_of_mem {c : Char} (hmem : c ∈ s) (hc : p c = false) (rest : List Char) :
    (s ++ rest).takeWhile p = s.takeWhile p := by
  rw [List.takeWhile_append, if_neg]
  intro hlength
  have hall := List.takeWhile_eq_self_iff.1 ((List.takeWhile_prefix p).eq_of_length hlength)
  rw [hall c hmem] at hc
  cases hc

/-- Two cuts of a text at the end of a run are one. -/
theorem append_cons_inj_of_run {c d : Char} {other tail : List Char} (hs : ∀ c ∈ s, p c)
    (hother : ∀ c ∈ other, p c) (hc : p c = false) (hd : p d = false)
    (h : s ++ c :: rest = other ++ d :: tail) : s = other ∧ c = d ∧ rest = tail := by
  have hhead : ∀ e ∈ (c :: rest).head?, p e = false := by simpa using hc
  have hhead' : ∀ e ∈ (d :: tail).head?, p e = false := by simpa using hd
  have htake := takeWhile_append_of_head? hs hhead
  have hdrop := dropWhile_append_of_head? hs hhead
  rw [h, takeWhile_append_of_head? hother hhead'] at htake
  rw [h, dropWhile_append_of_head? hother hhead'] at hdrop
  obtain ⟨rfl, rfl⟩ := List.cons.inj hdrop
  exact ⟨htake.symm, rfl, rfl⟩

/-- What is left after a run does not go on with it. -/
theorem head?_dropWhile (p : Char → Bool) (s : List Char) :
    ∀ c ∈ (s.dropWhile p).head?, p c = false := by
  intro c hc
  have h := List.head?_dropWhile_not p s
  rw [Option.mem_def.1 hc] at h
  simpa using h

/-- A text is what is in front of the run that it ends in, and that run. -/
theorem exists_append_run (p : Char → Bool) (s : List Char) :
    ∃ front run, s = front ++ run ∧ (∀ c ∈ front.getLast?, p c = false) ∧ ∀ c ∈ run, p c := by
  refine ⟨s.rdropWhile p, s.rtakeWhile p, List.rdropWhile_append_rtakeWhile.symm, ?_,
    fun _ ↦ List.mem_rtakeWhile_imp⟩
  intro c hc
  rw [List.rdropWhile, List.getLast?_reverse] at hc
  exact head?_dropWhile p s.reverse c hc

/-! ### Disjoint classes -/

/-- Blanks lie before the digits or after the Latin letters. -/
theorem toNat_of_isBlank {c : Char} (h : isBlank c) : c.toNat < 0x30 ∨ 0x7A < c.toNat := by
  simp only [isBlank, Ranges.covers, blankRanges, List.any_cons, List.any_nil, Bool.or_false,
    Bool.or_eq_true, Bool.and_eq_true, decide_eq_true_eq] at h
  omega

theorem toNat_of_isAlphanum {c : Char} (h : c.isAlphanum) : 0x30 ≤ c.toNat ∧ c.toNat ≤ 0x7A := by
  have hval : c.toNat = c.val.toNat := rfl
  -- the capital letters, the small ones and the digits
  have hranges : (decide (c.val ≥ 65 ∧ c.val ≤ 90) || decide (c.val ≥ 97) && decide (c.val ≤ 122) ||
      decide (c.val ≥ 48) && decide (c.val ≤ 57)) = true :=
    h
  simp only [Bool.or_eq_true, Bool.and_eq_true, decide_eq_true_eq, ge_iff_le,
    UInt32.le_iff_toNat_le] at hranges
  rcases hranges with (⟨h₁, h₂⟩ | ⟨h₁, h₂⟩) | ⟨h₁, h₂⟩
  all_goals
    simp at h₁ h₂
    omega

/-- No run of word characters meets a run of blanks. -/
theorem wordRanges_all_blankRanges :
    (wordRanges.all fun word ↦ blankRanges.all fun blank ↦
      Nat.blt word.2 blank.1 || Nat.blt blank.2 word.1) = true := by
  decide +kernel

theorem wordRanges_covers_eq_false_of_isBlank {c : Char} (h : isBlank c) :
    wordRanges.covers c = false := by
  rw [isBlank, Ranges.covers, List.any_eq_true] at h
  obtain ⟨blank, hblank, hc⟩ := h
  rw [Ranges.covers, List.any_eq_false]
  intro word hword
  have hapart := List.all_eq_true.1 (List.all_eq_true.1 wordRanges_all_blankRanges word hword) blank
    hblank
  simp only [Bool.or_eq_true, Nat.blt_eq, Bool.and_eq_true, decide_eq_true_eq] at hapart hc ⊢
  omega

/-- No blank is a word character. -/
theorem isWord_eq_false_of_isBlank {c : Char} (h : isBlank c) : isWord c = false := by
  have hcode := toNat_of_isBlank h
  have halphanum : c.isAlphanum = false := by
    by_contra halphanum
    have := toNat_of_isAlphanum (by simpa using halphanum)
    omega
  have hunderscore : (c == '_') = false := by
    rw [beq_eq_false_iff_ne]
    rintro rfl
    exact absurd hcode (by decide)
  simp [isWord, halphanum, hunderscore, wordRanges_covers_eq_false_of_isBlank h]

/-- No word character is blank. -/
theorem isBlank_eq_false_of_isWord {c : Char} (h : isWord c) : isBlank c = false := by
  by_contra hblank
  rw [isWord_eq_false_of_isBlank (by simpa using hblank)] at h
  exact absurd h (by simp)

/-- What begins a name is not blank. -/
theorem isBlank_eq_false_of_isNameStart {c : Char} (h : isNameStart c) : isBlank c = false :=
  isBlank_eq_false_of_isWord (isWord_of_isNameStart h)

/-! ### Characters that a text does not have -/

/-- A character that is no word character is in no text of word characters. -/
theorem not_mem_of_isWord {c : Char} (h : ∀ c ∈ text.toList, isWord c) (hc : isWord c = false) :
    c ∉ text.toList := by
  intro hmem
  rw [h c hmem] at hc
  cases hc

theorem not_mem_ofList {c : Char} {s : List Char} (h : c ∉ s) : c ∉ (String.ofList s).toList := by
  rwa [String.toList_ofList]

theorem not_mem_intercalate {c : Char} {separator : String} {pieces : List String}
    (hseparator : c ∉ separator.toList) (hpieces : ∀ piece ∈ pieces, c ∉ piece.toList) :
    c ∉ (separator.intercalate pieces).toList := by
  induction pieces with
  | nil => simp
  | cons piece pieces ih =>
    cases pieces with
    | nil => simpa using hpieces piece (by simp)
    | cons next pieces =>
      have hpiece := hpieces piece (by simp)
      have hothers := ih fun other hother ↦ hpieces other (List.mem_cons_of_mem _ hother)
      rw [String.intercalate_cons_cons, String.toList_append, String.toList_append,
        List.mem_append, List.mem_append]
      rintro ((h | h) | h)
      · exact hpiece h
      · exact hseparator h
      · exact hothers h

/-! ### Trimming -/

/-- A text that begins with no blank is all that is left after blanks in front of it. -/
theorem trimLeft_append_of_head? (hrun : ∀ c ∈ run, isBlank c)
    (hs : ∀ c ∈ s.head?, isBlank c = false) : trimLeft (run ++ s) = s :=
  dropWhile_append_of_head? hrun hs

theorem head?_trimLeft (s : List Char) : ∀ c ∈ (trimLeft s).head?, isBlank c = false :=
  head?_dropWhile isBlank s

/-- A text is its leading blanks and the rest. -/
theorem exists_append_trimLeft (s : List Char) :
    ∃ blanks, (∀ c ∈ blanks, isBlank c) ∧ s = blanks ++ trimLeft s :=
  ⟨s.takeWhile isBlank, fun _ hc ↦ List.mem_takeWhile_imp hc,
    List.takeWhile_append_dropWhile.symm⟩

/-- A text is itself without its trailing blanks, and those. -/
theorem exists_trimRight_append (s : List Char) :
    ∃ blanks, (∀ c ∈ blanks, isBlank c) ∧ s = trimRight s ++ blanks :=
  ⟨s.rtakeWhile isBlank, fun _ hc ↦ List.mem_rtakeWhile_imp hc,
    List.rdropWhile_append_rtakeWhile.symm⟩

/-- A text that does not end in a character of the class keeps its end. -/
theorem dropEndWhile_eq_self (h : ∀ c ∈ s.getLast?, p c = false) : dropEndWhile p s = s := by
  show s.rdropWhile p = s
  rw [List.rdropWhile_eq_self_iff]
  intro hne
  simp [h _ (List.getLast_mem_getLast? hne)]

/-- A text that begins with no blank has none to lose there. -/
theorem trimLeft_eq_self (hs : ∀ c ∈ s.head?, isBlank c = false) : trimLeft s = s := by
  cases s with
  | nil => rfl
  | cons c cs => exact List.dropWhile_cons_of_neg (by simp [hs c (by simp)])

/-- A text without blanks at its ends is trimmed. -/
theorem trim_eq_self (hhead : ∀ c ∈ s.head?, isBlank c = false)
    (hlast : ∀ c ∈ s.getLast?, isBlank c = false) : trim s = s := by
  rw [trim, trimLeft_eq_self hhead]
  exact dropEndWhile_eq_self hlast

theorem trimLeft_append_blanks (hleft : ∀ c ∈ left, isBlank c) (s : List Char) :
    trimLeft (left ++ s) = trimLeft s :=
  List.dropWhile_append_of_pos hleft

/-- An ending of characters of the class is dropped, whatever stands in front of it. -/
theorem dropEndWhile_append (hrun : ∀ c ∈ run, p c) (s : List Char) :
    dropEndWhile p (s ++ run) = dropEndWhile p s := by
  have hreverse : ∀ c ∈ run.reverse, p c := fun c hc ↦ hrun c (List.mem_reverse.1 hc)
  rw [dropEndWhile, List.reverse_append, List.dropWhile_append_of_pos hreverse]
  rfl

/-- Nothing in front of a character outside the class is dropped. -/
theorem dropEndWhile_append_of_exists (h : ∃ c ∈ right, p c = false) (left : List Char) :
    dropEndWhile p (left ++ right) = left ++ dropEndWhile p right := by
  have hne : (right.reverse.dropWhile p).isEmpty = false := by
    obtain ⟨c, hmem, hc⟩ := h
    rw [List.isEmpty_eq_false_iff, Ne, List.dropWhile_eq_nil_iff]
    intro hall
    rw [hall c (List.mem_reverse.2 hmem)] at hc
    cases hc
  rw [dropEndWhile, List.reverse_append, List.dropWhile_append, hne, if_neg Bool.false_ne_true,
    List.reverse_append, List.reverse_reverse]
  rfl

/-- Blanks at the ends of a text are dropped, whatever the text is. -/
theorem trim_append_blanks (hleft : ∀ c ∈ left, isBlank c) (hright : ∀ c ∈ right, isBlank c)
    (s : List Char) : trim (left ++ s ++ right) = trim s := by
  rw [List.append_assoc, trim, trimLeft_append_blanks hleft, trimLeft, List.dropWhile_append]
  split
  case isTrue hs =>
    -- the text is blank, so all of the rest goes too
    have hs : trimLeft s = [] := List.isEmpty_iff.1 hs
    rw [trim, hs, List.dropWhile_eq_nil_iff.2 hright]
  case isFalse => exact dropEndWhile_append hright _

theorem trim_left_blanks (hleft : ∀ c ∈ left, isBlank c) (s : List Char) :
    trim (left ++ s) = trim s := by
  have htrim := trim_append_blanks hleft (List.forall_mem_nil _) s
  rwa [List.append_nil] at htrim

theorem trim_right_blanks (hright : ∀ c ∈ right, isBlank c) (s : List Char) :
    trim (s ++ right) = trim s :=
  trim_append_blanks (List.forall_mem_nil _) hright s

theorem trim_eq_nil_of_blanks (h : ∀ c ∈ s, isBlank c) : trim s = [] := by
  rw [trim, trimLeft, List.dropWhile_eq_nil_iff.2 h]
  rfl

/-- A text is what is left when it is trimmed, between blanks. -/
theorem exists_append_trim_append (s : List Char) :
    ∃ left right, (∀ c ∈ left, isBlank c) ∧ (∀ c ∈ right, isBlank c) ∧
      s = left ++ trim s ++ right := by
  obtain ⟨left, hleft, hs⟩ := exists_append_trimLeft s
  obtain ⟨right, hright, hs'⟩ := exists_trimRight_append (trimLeft s)
  exact ⟨left, right, hleft, hright, by rw [List.append_assoc, trim, ← hs', ← hs]⟩

/-- A trimmed text has no blanks left to lose. -/
theorem trim_trim (s : List Char) : trim (trim s) = trim s := by
  obtain ⟨left, right, hleft, hright, hs⟩ := exists_append_trim_append s
  rw [← trim_append_blanks hleft hright (trim s), ← hs]

/-- Only blanks are trimmed. -/
theorem mem_trim {c : Char} (hmem : c ∈ s) (hc : isBlank c = false) : c ∈ trim s := by
  obtain ⟨left, right, hleft, hright, hs⟩ := exists_append_trim_append s
  rw [hs, List.mem_append, List.mem_append] at hmem
  rcases hmem with (hmem | hmem) | hmem
  · rw [hleft c hmem] at hc
    cases hc
  · exact hmem
  · rw [hright c hmem] at hc
    cases hc

/-- What is trimmed stands in the text as it is. -/
theorem trim_isInfix (s : List Char) : trim s <:+: s :=
  (List.rdropWhile_prefix isBlank (trimLeft s)).isInfix.trans
    (List.dropWhile_suffix isBlank).isInfix

/-- A piece of a cut text stands between two cuts, or between a cut and an end of the text. -/
theorem exists_append_of_mem_splitOn {c : Char} {piece : List Char} (h : piece ∈ s.splitOn c) :
    ∃ left right, s = left ++ piece ++ right ∧ (left = [] ∨ ∃ front, left = front ++ [c]) ∧
      (right = [] ∨ ∃ back, right = c :: back) := by
  have hs : [c].intercalate (s.splitOn c) = s := List.intercalate_splitOn c
  rw [← hs]
  generalize s.splitOn c = pieces at h
  induction pieces with
  | nil => cases h
  | cons first others ih =>
    cases others with
    | nil =>
      obtain rfl : piece = first := by simpa using h
      exact ⟨[], [], by simp, .inl rfl, .inl rfl⟩
    | cons other others =>
      rw [List.intercalate_cons_cons]
      rcases List.mem_cons.1 h with rfl | h
      · exact ⟨[], [c] ++ [c].intercalate (other :: others), by simp, .inl rfl, .inr ⟨_, rfl⟩⟩
      · obtain ⟨left, right, heq, hleft, hright⟩ := ih h
        refine ⟨first ++ [c] ++ left, right, by rw [heq]; simp, .inr ?_, hright⟩
        rcases hleft with rfl | ⟨front, rfl⟩
        · exact ⟨first, by simp⟩
        · exact ⟨first ++ [c] ++ front, by simp⟩

/-- The pieces of a text stand in it as they are. -/
theorem isInfix_of_mem_splitOn {c : Char} {piece : List Char} (h : piece ∈ s.splitOn c) :
    piece <:+: s := by
  obtain ⟨left, right, rfl, -⟩ := exists_append_of_mem_splitOn h
  exact ⟨left, right, rfl⟩

/-- The first piece of a cut text is what stands in front of the first cut. -/
theorem exists_splitOn_eq_cons (c : Char) (s : List Char) :
    ∃ others, s.splitOn c = s.takeWhile (· != c) :: others := by
  by_cases hmem : c ∈ s
  case neg =>
    refine ⟨[], ?_⟩
    rw [List.splitOn_eq_singleton hmem, List.takeWhile_eq_self_iff.2]
    exact fun d hd ↦ bne_iff_ne.2 fun heq ↦ hmem (heq ▸ hd)
  case pos =>
    obtain ⟨front, back, rfl, hfront⟩ := List.eq_append_cons_of_mem hmem
    refine ⟨back.splitOn c, ?_⟩
    rw [List.splitOn_append_cons_self_of_not_mem hfront, takeWhile_append_of_head?]
    · exact fun d hd ↦ bne_iff_ne.2 fun heq ↦ hfront (heq ▸ hd)
    · simp

/-- A piece of a cut text has no character that the text is cut at. -/
theorem eq_false_of_mem_splitOnP {piece : List Char} (h : piece ∈ s.splitOnP p) :
    ∀ c ∈ piece, p c = false := by
  induction s generalizing piece with
  | nil =>
    obtain rfl : piece = [] := by simpa using h
    simp
  | cons d s ih =>
    rw [List.splitOnP_cons_eq_if_modifyHead] at h
    split at h
    case isTrue =>
      rcases List.mem_cons.1 h with rfl | h
      · simp
      · exact ih h
    case isFalse hd =>
      -- the character goes in front of the first piece of the rest
      rw [Bool.not_eq_true] at hd
      obtain ⟨first, others, hsplit⟩ := List.exists_cons_of_ne_nil (List.splitOnP_ne_nil p s)
      rw [hsplit, List.modifyHead_cons] at h
      rcases List.mem_cons.1 h with rfl | h
      · exact List.forall_mem_cons.2 ⟨hd, ih (hsplit ▸ List.mem_cons_self)⟩
      · exact ih (hsplit ▸ List.mem_cons_of_mem _ h)

/-- A trimmed text does not end in a blank. -/
theorem isBlank_eq_false_of_trim_eq_append {c : Char} (h : trim s = run ++ [c]) :
    isBlank c = false := by
  have hlast := List.rdropWhile_last_not isBlank (trimLeft s)
  have heq : (trimLeft s).rdropWhile isBlank = run ++ [c] := h
  simp only [heq] at hlast
  simpa using hlast (by simp)

end BindingGlue.Text
