import BindingGlue.Proofs.Text.Runs
import BindingGlue.Text.Lines

/-!
# How lines end

A text may be cut at every character that ends lines, so that a carriage return and a line feed in a
row have an empty piece between them. The lines that count are the same with this cut
(`contentLines_eq_content_pieces`), as an empty piece is none of them.

Texts with other pieces may still have the same lines: blank pieces may stand anywhere, and a piece
may have any blanks around its text (`Relaid`).
-/

namespace BindingGlue.Text

variable {s left right : List Char} {lines lines' : List (List Char)} {text other : String}

/-- The characters that end lines. -/
def isLineEnd (c : Char) : Bool :=
  c == '\n' || c == '\r'

/-- The pieces of a text between the characters that end lines. -/
def pieces (text : String) : List (List Char) :=
  text.toList.splitOnP isLineEnd

/-- The pieces that are not blank, trimmed, in order. -/
def content (pieces : List (List Char)) : List String :=
  ((pieces.map trim).filter (!·.isEmpty)).map String.ofList

theorem beq_lineFeed_of_isLineEnd_eq_false {c : Char} (h : isLineEnd c = false) :
    (c == '\n') = false := by
  rw [isLineEnd, Bool.or_eq_false_iff] at h
  exact h.1

/-- A text without carriage returns has no other ends of lines than line feeds. -/
theorem unixNewlines_of_notMem (h : '\r' ∉ s) : unixNewlines s = s := by
  fun_induction unixNewlines s with
  | case1 => rfl
  | case2 cs ih => simp at h
  | case3 c cs hne ih =>
    simp only [List.mem_cons, not_or] at h
    rw [if_neg (Ne.symm h.1), ih h.2]

/-! ### Cuts -/

theorem content_cons_blank (h : ∀ c ∈ s, isBlank c) (lines : List (List Char)) :
    content (s :: lines) = content lines := by
  simp [content, trim_eq_nil_of_blanks h]

theorem content_cons_congr {s' : List Char} (hs : trim s = trim s')
    (h : content lines = content lines') : content (s :: lines) = content (s' :: lines') := by
  simp only [content, List.map_cons, hs, List.filter_cons] at h ⊢
  split
  · rw [List.map_cons, List.map_cons, h]
  · exact h

/-- What is cut at line feeds once every end of line is one may be cut at every end of line at
once, behind any beginning of a line. -/
theorem content_splitOn_unixNewlines (front s : List Char)
    (hfront : ∀ c ∈ front, isLineEnd c = false) :
    content ((front ++ unixNewlines s).splitOn '\n') =
      content ((front ++ s).splitOnP isLineEnd) := by
  have hfeed : ∀ c ∈ front, (c == '\n') = false :=
    fun c hc ↦ beq_lineFeed_of_isLineEnd_eq_false (hfront c hc)
  fun_induction unixNewlines s generalizing front with
  | case1 =>
    rw [List.append_nil, List.splitOn_eq_splitOnP, List.splitOnP_eq_singleton hfeed,
      List.splitOnP_eq_singleton hfront]
  | case2 cs ih =>
    -- the two characters are one end of line or two, with nothing between them
    have hlines := ih [] (by simp) (by simp)
    rw [List.splitOn_eq_splitOnP] at hlines ⊢
    rw [List.splitOnP_append_cons_of_forall_mem hfeed _ rfl,
      List.splitOnP_append_cons_of_forall_mem hfront _ rfl]
    refine content_cons_congr rfl ?_
    rw [← List.nil_append ('\n' :: cs), List.splitOnP_append_cons_of_forall_mem (by simp) _ rfl,
      content_cons_blank (by simp)]
    exact hlines
  | case3 c cs _ ih =>
    by_cases hc : isLineEnd c
    · have hwritten : (if c = '\r' then '\n' else c) = '\n' := by
        simp only [isLineEnd, Bool.or_eq_true, beq_iff_eq] at hc
        rcases hc with rfl | rfl <;> rfl
      have hlines := ih [] (by simp) (by simp)
      rw [List.splitOn_eq_splitOnP] at hlines ⊢
      rw [hwritten, List.splitOnP_append_cons_of_forall_mem hfeed _ rfl,
        List.splitOnP_append_cons_of_forall_mem hfront _ hc]
      exact content_cons_congr rfl hlines
    · -- the character is kept and belongs to the beginning of the line
      rw [Bool.not_eq_true] at hc
      have hne : c ≠ '\n' ∧ c ≠ '\r' := by simpa [isLineEnd] using hc
      have hfront' : ∀ d ∈ front ++ [c], isLineEnd d = false := by
        simpa [or_imp, forall_and] using ⟨hfront, hc⟩
      have hlines := ih (front ++ [c]) hfront'
        fun d hd ↦ beq_lineFeed_of_isLineEnd_eq_false (hfront' d hd)
      rw [if_neg hne.2]
      simpa using hlines

/-- **The lines that count** are the pieces between any two ends of lines, trimmed, that are not
blank. -/
theorem contentLines_eq_content_pieces (text : String) :
    contentLines text = content (pieces text) :=
  content_splitOn_unixNewlines [] text.toList (by simp)

/-! ### Other ends of lines -/

/-- The text with another end of line in place of each line feed. -/
def withNewlines (newline text : String) : String :=
  String.ofList (text.toList.flatMap fun c ↦ if c = '\n' then newline.toList else [c])

/-- Further ends of lines in front of a line give blank lines only. -/
theorem content_splitOnP_append_ends (hends : ∀ c ∈ left, isLineEnd c) (s : List Char) :
    content ((left ++ s).splitOnP isLineEnd) = content (s.splitOnP isLineEnd) := by
  induction left with
  | nil => rfl
  | cons c left ih =>
    rw [List.cons_append, List.splitOnP_cons_eq_if_modifyHead, if_pos (hends c (by simp)),
      content_cons_blank (by simp), ih fun d hd ↦ hends d (List.mem_cons_of_mem c hd)]

theorem content_splitOnP_withNewlines {newline : List Char} (hne : newline ≠ [])
    (hends : ∀ c ∈ newline, isLineEnd c) (front s : List Char)
    (hfront : ∀ c ∈ front, isLineEnd c = false) :
    content ((front ++ s.flatMap fun c ↦ if c = '\n' then newline else [c]).splitOnP isLineEnd) =
      content ((front ++ s).splitOnP isLineEnd) := by
  induction s generalizing front with
  | nil => rfl
  | cons c s ih =>
    rw [List.flatMap_cons]
    by_cases hc : isLineEnd c
    · -- a line ends here, perhaps in several characters
      obtain ⟨e, es, hwritten, he, hes⟩ : ∃ e es,
          (if c = '\n' then newline else [c]) = e :: es ∧ isLineEnd e ∧
            ∀ d ∈ es, isLineEnd d := by
        split
        case isTrue =>
          obtain ⟨e, es, rfl⟩ := List.exists_cons_of_ne_nil hne
          exact ⟨e, es, rfl, hends e (by simp), fun d hd ↦ hends d (List.mem_cons_of_mem e hd)⟩
        case isFalse => exact ⟨c, [], rfl, hc, by simp⟩
      rw [hwritten, List.cons_append, List.splitOnP_append_cons_of_forall_mem hfront _ he,
        List.splitOnP_append_cons_of_forall_mem hfront _ hc]
      refine content_cons_congr rfl ?_
      rw [content_splitOnP_append_ends hes]
      exact ih [] (by simp)
    · rw [Bool.not_eq_true] at hc
      have hne : c ≠ '\n' := by
        rintro rfl
        cases hc
      have hlines := ih (front ++ [c]) (by simpa [or_imp, forall_and] using ⟨hfront, hc⟩)
      rw [if_neg hne]
      simpa using hlines

/-- Line feeds may be written as any ends of lines. -/
theorem content_pieces_withNewlines {newline : String} (hne : newline ≠ "")
    (hends : ∀ c ∈ newline.toList, isLineEnd c) (text : String) :
    content (pieces (withNewlines newline text)) = content (pieces text) := by
  rw [pieces, withNewlines, String.toList_ofList]
  exact content_splitOnP_withNewlines (by simpa using hne) hends [] text.toList (by simp)

/-! ### Other layouts -/

/-- The same lines in another layout: further blank lines stand among them, and each line may have
other blanks at its ends. -/
inductive Relaid : List (List Char) → List (List Char) → Prop where
  | nil : Relaid [] []
  /-- A blank line is inserted. -/
  | insert {blank lines lines' : List _} (hblank : ∀ c ∈ blank, isBlank c)
    (h : Relaid lines lines') : Relaid lines (blank :: lines')
  /-- The blanks at the ends of a line are replaced by others. -/
  | pad {left right left' right' : List Char} (text : List Char) {lines lines' : List _}
    (hleft : ∀ c ∈ left, isBlank c) (hright : ∀ c ∈ right, isBlank c)
    (hleft' : ∀ c ∈ left', isBlank c) (hright' : ∀ c ∈ right', isBlank c)
    (h : Relaid lines lines') :
    Relaid ((left ++ text ++ right) :: lines) ((left' ++ text ++ right') :: lines')

/-- The layout of lines does not change what counts. -/
theorem content_eq_of_relaid (h : Relaid lines lines') : content lines' = content lines := by
  induction h with
  | nil => rfl
  | insert hblank _ ih => rw [content_cons_blank hblank, ih]
  | pad text hleft hright hleft' hright' _ ih =>
    refine content_cons_congr ?_ ih
    rw [trim_append_blanks hleft hright, trim_append_blanks hleft' hright']

end BindingGlue.Text
