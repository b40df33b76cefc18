import BindingGlue.Proofs.Text.LineEnds

/-!
# The lines that count

The lines that a batch is made of are trimmed, not blank, and on one line each, whatever the text
is. A reader of such a line may rely on it: the line has a character, its last one is not a blank,
and nothing that is taken out of it ends a line (`OnOneLine.of_isInfix`).
-/

namespace BindingGlue.Text

variable {text line : String} {run s left right : List Char} {c : Char}

/-! ### Texts on one line -/

/-- A text on one line: none of its characters ends lines. -/
def OnOneLine (s : List Char) : Prop :=
  ∀ c ∈ s, isLineEnd c = false

instance (s : List Char) : Decidable (OnOneLine s) :=
  List.decidableBAll (fun c ↦ isLineEnd c = false) s

@[simp]
theorem onOneLine_append : OnOneLine (left ++ right) ↔ OnOneLine left ∧ OnOneLine right :=
  List.forall_mem_append

@[simp]
theorem onOneLine_nil : OnOneLine [] :=
  List.forall_mem_nil _

@[simp]
theorem onOneLine_cons : OnOneLine (c :: s) ↔ isLineEnd c = false ∧ OnOneLine s :=
  List.forall_mem_cons

theorem onOneLine_iff : OnOneLine s ↔ '\n' ∉ s ∧ '\r' ∉ s := by
  constructor
  · intro h
    exact ⟨fun hmem ↦ absurd (h _ hmem) (by decide), fun hmem ↦ absurd (h _ hmem) (by decide)⟩
  · rintro ⟨hfeed, hreturn⟩ c hc
    rw [isLineEnd, Bool.or_eq_false_iff, beq_eq_false_iff_ne, beq_eq_false_iff_ne]
    exact ⟨fun heq ↦ hfeed (heq ▸ hc), fun heq ↦ hreturn (heq ▸ hc)⟩

theorem OnOneLine.lineFeed_notMem (h : OnOneLine s) : '\n' ∉ s :=
  (onOneLine_iff.1 h).1

theorem OnOneLine.not_mem (h : OnOneLine s) (hc : isLineEnd c) : c ∉ s := by
  intro hmem
  rw [h c hmem] at hc
  cases hc

theorem onOneLine_of_not_mem (h : ∀ c, isLineEnd c → c ∉ s) : OnOneLine s := by
  intro c hc
  by_contra hend
  exact h c (by simpa using hend) hc

theorem OnOneLine.of_isInfix (h : OnOneLine s) (hwithin : left <:+: s) : OnOneLine left :=
  fun c hc ↦ h c (hwithin.subset hc)

/-- The characters that end lines are blanks. -/
theorem isLineEnd_eq_false_of_isBlank_eq_false (h : isBlank c = false) : isLineEnd c = false := by
  by_contra hend
  rw [Bool.not_eq_false, isLineEnd, Bool.or_eq_true, beq_iff_eq, beq_iff_eq] at hend
  rcases hend with rfl | rfl
  all_goals exact absurd h (by decide)

theorem onOneLine_of_isWord (h : ∀ c ∈ s, isWord c) : OnOneLine s :=
  fun c hc ↦ isLineEnd_eq_false_of_isBlank_eq_false (isBlank_eq_false_of_isWord (h c hc))

theorem onOneLine_intercalate (hleft : OnOneLine left) {pieces : List (List Char)}
    (h : ∀ piece ∈ pieces, OnOneLine piece) : OnOneLine (left.intercalate pieces) := by
  induction pieces with
  | nil => simp [OnOneLine]
  | cons first others ih =>
    obtain ⟨hfirst, hothers⟩ := List.forall_mem_cons.1 h
    cases others with
    | nil => simpa using hfirst
    | cons other others =>
      rw [List.intercalate_cons_cons, onOneLine_append, onOneLine_append]
      exact ⟨⟨hfirst, hleft⟩, ih hothers⟩

/-- Words with single spaces between them stand on one line, whatever was between them before. -/
theorem onOneLine_singleSpaced (s : List Char) : OnOneLine (singleSpaced s) := by
  refine onOneLine_intercalate (by decide) fun word hword c hc ↦ ?_
  have hblank := eq_false_of_mem_splitOnP (List.mem_of_mem_filter hword) c hc
  exact isLineEnd_eq_false_of_isBlank_eq_false hblank

/-! ### Lines that count -/

/-- A line that counts is a trimmed text with something in it. -/
theorem exists_trim_of_mem_contentLines (h : line ∈ contentLines text) :
    ∃ s, line = String.ofList (trim s) ∧ trim s ≠ [] := by
  obtain ⟨_, hs, rfl⟩ := List.mem_map.1 h
  obtain ⟨hs, hne⟩ := List.mem_filter.1 hs
  obtain ⟨s, -, rfl⟩ := List.mem_map.1 hs
  exact ⟨s, rfl, by simpa using hne⟩

/-- A line that counts does not end in a blank. -/
theorem isBlank_eq_false_of_mem_contentLines (h : line ∈ contentLines text)
    (hline : line.toList = run ++ [c]) : isBlank c = false := by
  obtain ⟨s, rfl, -⟩ := exists_trim_of_mem_contentLines h
  rw [String.toList_ofList] at hline
  exact isBlank_eq_false_of_trim_eq_append hline

theorem ofList_trim_of_mem_contentLines (h : line ∈ contentLines text) :
    String.ofList (trim line.toList) = line := by
  obtain ⟨s, rfl, -⟩ := exists_trim_of_mem_contentLines h
  rw [String.toList_ofList, trim_trim]

theorem ne_empty_of_mem_contentLines (h : line ∈ contentLines text) : line ≠ "" := by
  obtain ⟨s, rfl, hne⟩ := exists_trim_of_mem_contentLines h
  intro heq
  exact hne (by simpa using heq)

/-- A line that counts has no end of a line in it. -/
theorem onOneLine_of_mem_contentLines (h : line ∈ contentLines text) : OnOneLine line.toList := by
  rw [contentLines_eq_content_pieces] at h
  obtain ⟨_, hs, rfl⟩ := List.mem_map.1 h
  obtain ⟨piece, hpiece, rfl⟩ := List.mem_map.1 (List.mem_of_mem_filter hs)
  have honeLine : OnOneLine piece := eq_false_of_mem_splitOnP hpiece
  rw [String.toList_ofList]
  exact honeLine.of_isInfix (trim_isInfix piece)

end BindingGlue.Text
