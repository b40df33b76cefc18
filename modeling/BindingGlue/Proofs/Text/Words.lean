import BindingGlue.Proofs.Text.Runs

/-!
# Words one space apart

`singleSpaced` puts the words of a text one space apart. The texts that it leaves alone are the ones
whose words already stand so (`singleSpaced_eq_self_iff`), and these are exactly its results. What
is no blank stays as it is and in its order (`filter_singleSpaced`). A text is cut into words at
every blank (`words_append_cons`), so that it does not matter to its words which blanks stand
between them.
-/

namespace BindingGlue.Text

variable {s blanks : List Char} {pieces : List (List Char)}

/-- Words that stand one space apart, with nothing in front of them and nothing behind. -/
def IsSingleSpaced (s : List Char) : Prop :=
  ∃ pieces : List (List Char), s = [' '].intercalate pieces ∧
    ∀ piece ∈ pieces, piece ≠ [] ∧ ∀ c ∈ piece, isBlank c = false

/-- No blank is in a word, and no word is empty. -/
theorem of_mem_words {piece : List Char} (h : piece ∈ words s) :
    piece ≠ [] ∧ ∀ c ∈ piece, isBlank c = false := by
  obtain ⟨hmem, hne⟩ := List.mem_filter.1 h
  exact ⟨by simpa using hne, eq_false_of_mem_splitOnP hmem⟩

theorem isSingleSpaced_singleSpaced (s : List Char) : IsSingleSpaced (singleSpaced s) :=
  ⟨words s, rfl, fun _ hpiece ↦ of_mem_words hpiece⟩

/-- Words that are put together are found again. -/
theorem words_intercalate (h : ∀ piece ∈ pieces, piece ≠ [] ∧ ∀ c ∈ piece, isBlank c = false) :
    words ([' '].intercalate pieces) = pieces := by
  induction pieces with
  | nil => rfl
  | cons piece others ih =>
    obtain ⟨hne, hpiece⟩ := h piece List.mem_cons_self
    have hkept : ([piece].filter (!·.isEmpty)) = [piece] := by simpa using hne
    cases others with
    | nil => rw [List.intercalate_singleton, words, List.splitOnP_eq_singleton hpiece, hkept]
    | cons other others =>
      have ih := ih fun later hlater ↦ h later (List.mem_cons_of_mem _ hlater)
      rw [List.intercalate_cons_cons, List.append_assoc, List.singleton_append, words,
        List.splitOnP_append_cons_of_forall_mem hpiece ' ' (by decide), ← List.singleton_append,
        List.filter_append, hkept, ← words, ih, List.singleton_append]

/-- The texts that are left alone. -/
theorem singleSpaced_eq_self_iff : singleSpaced s = s ↔ IsSingleSpaced s := by
  constructor
  · intro h
    rw [← h]
    exact isSingleSpaced_singleSpaced s
  · rintro ⟨pieces, rfl, hpieces⟩
    rw [singleSpaced, words_intercalate hpieces]

/-! ### The ends of the text -/

theorem IsSingleSpaced.head? (h : IsSingleSpaced s) : ∀ c ∈ s.head?, isBlank c = false := by
  obtain ⟨pieces, rfl, hpieces⟩ := h
  intro c hc
  cases pieces with
  | nil => cases hc
  | cons piece others =>
    obtain ⟨hne, hpiece⟩ := hpieces piece List.mem_cons_self
    obtain ⟨tail, htail⟩ : ∃ tail, [' '].intercalate (piece :: others) = piece ++ tail := by
      cases others with
      | nil => exact ⟨[], by simp⟩
      | cons other others => exact ⟨_, by rw [List.intercalate_cons_cons, List.append_assoc]⟩
    rw [htail, List.head?_append_of_ne_nil _ hne] at hc
    exact hpiece c (List.mem_of_mem_head? hc)

theorem IsSingleSpaced.getLast? (h : IsSingleSpaced s) : ∀ c ∈ s.getLast?, isBlank c = false := by
  obtain ⟨pieces, rfl, hpieces⟩ := h
  induction pieces with
  | nil => exact nofun
  | cons piece others ih =>
    intro c hc
    cases others with
    | nil =>
      rw [List.intercalate_singleton] at hc
      exact (hpieces piece List.mem_cons_self).2 c (List.mem_of_getLast? hc)
    | cons other others =>
      have hothers := fun later hlater ↦ hpieces later (List.mem_cons_of_mem _ hlater)
      have hne : [' '].intercalate (other :: others) ≠ [] := by
        intro hnil
        have hwords := words_intercalate hothers
        rw [hnil] at hwords
        cases hwords
      rw [List.intercalate_cons_cons, List.getLast?_append_of_ne_nil _ hne] at hc
      exact ih hothers c hc

theorem IsSingleSpaced.trim_eq (h : IsSingleSpaced s) : trim s = s :=
  trim_eq_self h.head? h.getLast?

/-! ### What is kept -/

theorem flatten_splitOnP (p : Char → Bool) (s : List Char) :
    (s.splitOnP p).flatten = s.filter (!p ·) := by
  induction s with
  | nil => rfl
  | cons c s ih =>
    obtain ⟨piece, others, hpieces⟩ := List.exists_cons_of_ne_nil (List.splitOnP_ne_nil p s)
    rw [List.splitOnP_cons_eq_if_modifyHead]
    split
    case isTrue hc => simp [ih, hc]
    case isFalse hc =>
      rw [hpieces, List.flatten_cons] at ih
      simp [hpieces, ih, hc]

theorem flatten_words (s : List Char) : (words s).flatten = s.filter (!isBlank ·) := by
  rw [words, List.flatten_filter_not_isEmpty, flatten_splitOnP]

theorem filter_intercalate (h : ∀ piece ∈ pieces, ∀ c ∈ piece, isBlank c = false) :
    ([' '].intercalate pieces).filter (!isBlank ·) = pieces.flatten := by
  induction pieces with
  | nil => rfl
  | cons piece others ih =>
    have hpiece : piece.filter (!isBlank ·) = piece :=
      List.filter_eq_self.2 fun c hc ↦ by simp [h piece List.mem_cons_self c hc]
    have hspace : [' '].filter (!isBlank ·) = [] := by decide
    have ih := ih fun later hlater ↦ h later (List.mem_cons_of_mem _ hlater)
    cases others with
    | nil => simp [hpiece]
    | cons other others =>
      rw [List.intercalate_cons_cons, List.filter_append, List.filter_append, hpiece, hspace, ih,
        List.append_nil]
      rfl

/-- Only blanks are changed. -/
theorem filter_singleSpaced (s : List Char) :
    (singleSpaced s).filter (!isBlank ·) = s.filter (!isBlank ·) := by
  rw [singleSpaced, filter_intercalate fun _ hpiece ↦ (of_mem_words hpiece).2, flatten_words]

/-- So the last character is kept where it is no blank. -/
theorem getLast?_singleSpaced (h : ∀ c ∈ s.getLast?, isBlank c = false) :
    (singleSpaced s).getLast? = s.getLast? := by
  have hfilter : ∀ {t : List Char}, (∀ c ∈ t.getLast?, isBlank c = false) →
      (t.filter (!isBlank ·)).getLast? = t.getLast? := by
    intro t ht
    rcases List.eq_nil_or_concat' t with rfl | ⟨init, c, rfl⟩
    · rfl
    · simp [ht c (by simp)]
  rw [← hfilter h, ← hfilter (isSingleSpaced_singleSpaced s).getLast?, filter_singleSpaced]

/-! ### The words of a text in pieces -/

/-- A text is cut into words at every blank. -/
theorem words_append_cons {b : Char} (hb : isBlank b) (left right : List Char) :
    words (left ++ b :: right) = words left ++ words right := by
  rw [words, List.splitOnP_append_cons left right hb, List.filter_append]
  rfl

theorem words_append (hleft : ∀ c ∈ left.getLast?, isBlank c) (right : List Char) :
    words (left ++ right) = words left ++ words right := by
  rcases List.eq_nil_or_concat' left with rfl | ⟨init, b, rfl⟩
  · rfl
  · have hb : isBlank b := hleft b (by simp)
    rw [List.append_assoc, List.singleton_append, words_append_cons hb, words_append_cons hb]
    simp [words]

theorem words_eq_nil_of_blanks (h : ∀ c ∈ s, isBlank c) : words s = [] := by
  induction s with
  | nil => rfl
  | cons c s ih =>
    obtain ⟨hc, hs⟩ := List.forall_mem_cons.1 h
    exact (words_append_cons hc [] s).trans (ih hs)

theorem words_of_unbroken (hne : s ≠ []) (h : ∀ c ∈ s, isBlank c = false) : words s = [s] := by
  have hwhole : ∀ piece ∈ [s], piece ≠ [] ∧ ∀ c ∈ piece, isBlank c = false := by
    simpa using ⟨hne, h⟩
  have hwords := words_intercalate hwhole
  rwa [List.intercalate_singleton] at hwords

theorem words_blanks_append (hblanks : ∀ c ∈ blanks, isBlank c) (s : List Char) :
    words (blanks ++ s) = words s := by
  rw [words_append (fun c hc ↦ hblanks c (List.mem_of_getLast? hc)), words_eq_nil_of_blanks hblanks,
    List.nil_append]

theorem words_append_blanks (hblanks : ∀ c ∈ blanks, isBlank c) (s : List Char) :
    words (s ++ blanks) = words s := by
  cases blanks with
  | nil => rw [List.append_nil]
  | cons b blanks =>
    obtain ⟨hb, hblanks⟩ := List.forall_mem_cons.1 hblanks
    rw [words_append_cons hb, words_eq_nil_of_blanks hblanks, List.append_nil]

theorem words_trimLeft (s : List Char) : words (trimLeft s) = words s := by
  obtain ⟨blanks, hblanks, hs⟩ := exists_append_trimLeft s
  conv_rhs => rw [hs, words_blanks_append hblanks]

theorem words_trim (s : List Char) : words (trim s) = words s := by
  obtain ⟨left, right, hleft, hright, hs⟩ := exists_append_trim_append s
  conv_rhs => rw [hs, words_append_blanks hright, words_blanks_append hleft]

/-- A run of blanks between two texts, whatever it is, keeps their words apart. -/
theorem words_append_blanks_append (hblanks : ∀ c ∈ blanks, isBlank c) (hne : blanks ≠ [])
    (left right : List Char) : words (left ++ blanks ++ right) = words left ++ words right := by
  rw [words_append, words_append_blanks hblanks]
  intro c hc
  rw [List.getLast?_append_of_ne_nil _ hne] at hc
  exact hblanks c (List.mem_of_getLast? hc)

/-- One piece more stands behind the others, with a gap that does not depend on it. -/
theorem exists_intercalate_concat (pieces : List (List Char)) :
    ∃ gap, (∀ c ∈ gap, isBlank c) ∧ ∀ piece,
      [' '].intercalate (pieces ++ [piece]) = [' '].intercalate pieces ++ gap ++ piece := by
  induction pieces with
  | nil => exact ⟨[], by simp, by simp⟩
  | cons first others ih =>
    obtain ⟨gap, hgap, hpiece⟩ := ih
    cases others with
    | nil => exact ⟨[' '], List.forall_mem_singleton.2 (by decide), by simp⟩
    | cons other others =>
      refine ⟨gap, hgap, fun piece ↦ ?_⟩
      rw [List.cons_append, List.intercalate_cons_of_ne_nil (by simp), hpiece,
        List.intercalate_cons_cons]
      simp

/-- One character more adds itself to the words one space apart, perhaps behind a space, or is a
blank and adds nothing. -/
theorem exists_singleSpaced_concat (s : List Char) (c : Char) :
    ∃ ending, singleSpaced (s ++ [c]) = singleSpaced s ++ ending ∧
      ∀ d ∈ ending, d = c ∨ isBlank d := by
  by_cases hc : isBlank c
  case pos =>
    refine ⟨[], ?_, by simp⟩
    rw [singleSpaced, words_append_blanks (by simpa using hc), List.append_nil, singleSpaced]
  case neg =>
    rw [Bool.not_eq_true] at hc
    -- the run that the text ends in is the last word, or there is none
    obtain ⟨front, run, rfl, hfront, hrun⟩ := exists_append_run (!isBlank ·) s
    simp only [Bool.not_eq_false', Bool.not_eq_true'] at hfront hrun
    obtain ⟨gap, hgap, hpiece⟩ := exists_intercalate_concat (words front)
    have hlonger : words (run ++ [c]) = [run ++ [c]] :=
      words_of_unbroken (by simp) (by simpa [or_imp, forall_and] using ⟨hrun, hc⟩)
    rw [singleSpaced, singleSpaced, List.append_assoc, words_append hfront, words_append hfront,
      hlonger, hpiece]
    cases run with
    | nil =>
      refine ⟨gap ++ [c], by simp [words], fun d hd ↦ ?_⟩
      rcases List.mem_append.1 hd with hd | hd
      · exact .inr (hgap d hd)
      · exact .inl (List.mem_singleton.1 hd)
    | cons e run =>
      refine ⟨[c], ?_, by simp⟩
      rw [words_of_unbroken (by simp) hrun, hpiece]
      simp

end BindingGlue.Text
