import BindingGlue.Proofs.Text.Runs

/-!
# Blocks of lines

Where texts stand one below the other, they can be told apart if the last line of each is unlike its
other lines: a list of blocks is determined by its flattening if every block is closed by its only
element with a property (`eq_of_flatten_eq`), and so is a list of texts by its lines
(`eq_of_intercalate_eq`). The same holds where the first element of a block is what the others are
unlike (`eq_of_flatten_cons_eq`).
-/

namespace BindingGlue.Text

variable {α : Type} {p : α → Bool} {first : α} {blocks blocks' : List (List α)}
  {texts texts' : List String} {text other : String}

/-! ### Lines -/

/-- The lines of a text, between its line feeds. -/
def linesOf (text : String) : List (List Char) :=
  text.toList.splitOn '\n'

theorem linesOf_ne_nil (text : String) : linesOf text ≠ [] :=
  List.splitOn_ne_nil _ _

/-- A text is determined by its lines. -/
theorem linesOf_injective (h : linesOf text = linesOf other) : text = other := by
  have hlist := congrArg (['\n'].intercalate ·) h
  simp only [linesOf, List.intercalate_splitOn] at hlist
  exact String.toList_inj.1 hlist

theorem linesOf_eq_singleton (h : '\n' ∉ text.toList) : linesOf text = [text.toList] :=
  List.splitOn_eq_singleton h

/-- The lines of texts one below the other are the lines of the first, of the second, and so on. -/
theorem linesOf_intercalate (hne : texts ≠ []) :
    linesOf ("\n".intercalate texts) = (texts.map linesOf).flatten := by
  induction texts with
  | nil => exact absurd rfl hne
  | cons first texts ih =>
    cases texts with
    | nil => simp
    | cons next texts =>
      have hothers := ih (by simp)
      have htext : ("\n".intercalate (first :: next :: texts)).toList =
          first.toList ++ '\n' :: ("\n".intercalate (next :: texts)).toList := by
        simp [String.intercalate_cons_cons]
      rw [linesOf, htext, List.splitOn_eq_splitOnP, List.splitOnP_append_cons _ _ (by simp),
        List.map_cons, List.flatten_cons, ← hothers, linesOf, linesOf, List.splitOn_eq_splitOnP,
        List.splitOn_eq_splitOnP]

/-- Lines without a line feed are the lines of the text that they make up. -/
theorem linesOf_intercalate_of_notMem (hne : texts ≠ [])
    (h : ∀ text ∈ texts, '\n' ∉ text.toList) :
    linesOf ("\n".intercalate texts) = texts.map String.toList := by
  have hlines : texts.map linesOf = texts.map fun text ↦ [text.toList] :=
    List.map_congr_left fun text htext ↦ linesOf_eq_singleton (h text htext)
  rw [linesOf_intercalate hne, hlines, ← List.flatMap_def]
  exact List.flatMap_pure_eq_map String.toList texts

/-! ### Blocks -/

/-- The block ends in its only element with the property. -/
def Closes (p : α → Bool) (block : List α) : Prop :=
  ∃ front last, block = front ++ [last] ∧ (∀ a ∈ front, p a = false) ∧ p last = true

/-- Blocks that are closed are determined by their elements in order. -/
theorem eq_of_flatten_eq (h : ∀ block ∈ blocks, Closes p block)
    (h' : ∀ block ∈ blocks', Closes p block) (heq : blocks.flatten = blocks'.flatten) :
    blocks = blocks' := by
  have htake : ∀ (front : List α) (last : α) (rest : List α), (∀ a ∈ front, p a = false) →
      p last = true → (front ++ last :: rest).takeWhile (fun a ↦ !p a) = front := by
    intro front last rest hfront hlast
    rw [List.takeWhile_append_of_pos (by simpa using hfront),
      List.takeWhile_cons_of_neg (by simp [hlast]), List.append_nil]
  induction blocks generalizing blocks' with
  | nil =>
    cases blocks' with
    | nil => rfl
    | cons block' blocks' =>
      obtain ⟨front, last, rfl, -⟩ := h' block' List.mem_cons_self
      simp at heq
  | cons block blocks ih =>
    obtain ⟨front, last, rfl, hfront, hlast⟩ := h block List.mem_cons_self
    cases blocks' with
    | nil => simp at heq
    | cons block' blocks' =>
      obtain ⟨front', last', rfl, hfront', hlast'⟩ := h' block' List.mem_cons_self
      rw [List.flatten_cons, List.flatten_cons, List.append_assoc, List.append_assoc,
        List.singleton_append, List.singleton_append] at heq
      -- the first element with the property closes the first block on both sides
      have hsame := congrArg (List.takeWhile fun a ↦ !p a) heq
      rw [htake front last _ hfront hlast, htake front' last' _ hfront' hlast'] at hsame
      subst hsame
      obtain ⟨rfl, hrest⟩ := List.cons.inj (List.append_cancel_left heq)
      have hblocks := ih (fun block hblock ↦ h block (List.mem_cons_of_mem _ hblock))
        (fun block hblock ↦ h' block (List.mem_cons_of_mem _ hblock)) hrest
      rw [hblocks]

/-- A first element in front of each block and one at the end is one behind each block and one at
the beginning. -/
theorem flatten_map_cons_append (first : α) (blocks : List (List α)) :
    (blocks.map (first :: ·)).flatten ++ [first] =
      first :: (blocks.map (· ++ [first])).flatten := by
  induction blocks with
  | nil => rfl
  | cons block blocks ih => simp [ih]

/-- Blocks behind an element that is in none of them are determined by the elements in order. -/
theorem eq_of_flatten_cons_eq (h : ∀ block ∈ blocks, first ∉ block)
    (h' : ∀ block ∈ blocks', first ∉ block)
    (heq : (blocks.map (first :: ·)).flatten = (blocks'.map (first :: ·)).flatten) :
    blocks = blocks' := by
  classical
  have hcloses : ∀ {blocks : List (List α)}, (∀ block ∈ blocks, first ∉ block) →
      ∀ block ∈ blocks.map (· ++ [first]), Closes (fun a ↦ decide (a = first)) block := by
    intro blocks hblocks block hblock
    obtain ⟨front, hfront, rfl⟩ := List.mem_map.1 hblock
    refine ⟨front, first, rfl, fun a ha ↦ ?_, by simp⟩
    rw [decide_eq_false_iff_not]
    rintro rfl
    exact hblocks front hfront ha
  have hshifted := congrArg (· ++ [first]) heq
  simp only [flatten_map_cons_append] at hshifted
  have hmap := eq_of_flatten_eq (hcloses h) (hcloses h') (List.cons.inj hshifted).2
  exact List.map_injective_iff.2 (fun _ _ ↦ List.append_cancel_right) hmap

/-- An element in front of each block and in none of them counts the blocks. -/
theorem count_flatten_cons [BEq α] [LawfulBEq α] (h : ∀ block ∈ blocks, first ∉ block) :
    (blocks.map (first :: ·)).flatten.count first = blocks.length := by
  induction blocks with
  | nil => rfl
  | cons block blocks ih =>
    obtain ⟨hblock, hblocks⟩ := List.forall_mem_cons.1 h
    rw [List.map_cons, List.flatten_cons, List.count_append, List.count_cons_self,
      List.count_eq_zero.2 hblock, ih hblocks, List.length_cons]
    omega

/-- Texts whose lines are closed are determined by the text that they make up. -/
theorem eq_of_intercalate_eq {p : List Char → Bool} (hne : texts ≠ []) (hne' : texts' ≠ [])
    (h : ∀ text ∈ texts, Closes p (linesOf text)) (h' : ∀ text ∈ texts', Closes p (linesOf text))
    (heq : "\n".intercalate texts = "\n".intercalate texts') : texts = texts' := by
  have hlines := congrArg linesOf heq
  rw [linesOf_intercalate hne, linesOf_intercalate hne'] at hlines
  have hmap : texts.map linesOf = texts'.map linesOf :=
    eq_of_flatten_eq (by simpa using h) (by simpa using h') hlines
  exact List.map_injective_iff.2 (fun _ _ ↦ linesOf_injective) hmap

end BindingGlue.Text
