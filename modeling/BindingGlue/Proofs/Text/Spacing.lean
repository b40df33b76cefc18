import Mathlib.Data.List.Chain
import BindingGlue.Proofs.Text.Blocks

/-!
# Empty lines

Lines are spaced if no two empty ones follow each other (`IsSpaced`). A text of such lines has no
three line feeds in a row (`not_isInfix_of_isSpaced`). The condition can be followed through blocks
of lines (`isSpaced_flatten`): what counts between them is that the empty lines at their ends are
all at the same end.
-/

namespace BindingGlue.Text

variable {text : String} {lines more : List (List Char)} {blocks : List (List (List Char))}

/-- Lines of which no two that follow each other are empty. -/
def IsSpaced (lines : List (List Char)) : Prop :=
  lines.IsChain fun line next ↦ line ≠ [] ∨ next ≠ []

/-- Lines that are not empty may follow any spaced lines. -/
theorem IsSpaced.append (h : IsSpaced lines) (hmore : ∀ line ∈ more, line ≠ []) :
    IsSpaced (lines ++ more) := by
  have hspaced : IsSpaced more :=
    (List.pairwise_of_forall_mem_list fun line hline _ _ ↦ Or.inl (hmore line hline)).isChain
  exact List.IsChain.append h hspaced fun _ _ next hnext ↦
    .inr (hmore next (List.mem_of_mem_head? hnext))

/-- Blocks of spaced lines are spaced if none of them ends in an empty line, or if none begins with
one. -/
theorem isSpaced_flatten (hne : [] ∉ blocks) (hblocks : ∀ block ∈ blocks, IsSpaced block)
    (hends : (∀ block ∈ blocks, block.getLast? ≠ some []) ∨
      ∀ block ∈ blocks, block.head? ≠ some []) : IsSpaced blocks.flatten := by
  refine (List.isChain_flatten hne).2 ⟨hblocks, List.Pairwise.isChain ?_⟩
  refine List.pairwise_of_forall_mem_list fun block hblock next hnext line hline first hfirst ↦ ?_
  rcases hends with hlast | hhead
  · left
    rintro rfl
    exact hlast block hblock hline
  · right
    rintro rfl
    exact hhead next hnext hfirst

/-- Three line feeds in a row have two empty lines between them. -/
theorem not_isInfix_of_isSpaced (h : IsSpaced (linesOf text)) :
    ¬ ['\n', '\n', '\n'] <:+: text.toList := by
  rintro ⟨s, t, heq⟩
  have hlines : linesOf text = s.splitOn '\n' ++ [] :: [] :: t.splitOn '\n' := by
    have htext : text.toList = s ++ '\n' :: ([] ++ '\n' :: ([] ++ '\n' :: t)) := by
      rw [← heq]
      simp
    rw [linesOf, htext]
    simp only [List.splitOn_eq_splitOnP]
    rw [List.splitOnP_append_cons _ _ (by simp), List.splitOnP_append_cons _ _ (by simp),
      List.splitOnP_append_cons _ _ (by simp)]
    simp
  rw [hlines] at h
  have hempty := (List.isChain_cons_cons.1 (List.IsChain.right_of_append h)).1
  simp at hempty

/-- A text whose last line is empty is empty itself or ends in a line feed. -/
theorem exists_concat_of_getLast?_linesOf (h : (linesOf text).getLast? = some []) :
    text.toList = [] ∨ ∃ s, text.toList = s ++ ['\n'] := by
  obtain ⟨front, hfront⟩ := List.getLast?_eq_some_iff.1 h
  have htext : text.toList = ['\n'].intercalate (front ++ [[]]) := by
    rw [← hfront, linesOf, List.intercalate_splitOn]
  rw [htext]
  clear h hfront htext
  induction front with
  | nil => exact .inl (by simp)
  | cons first front ih =>
    right
    have hcons : ['\n'].intercalate (first :: front ++ [[]]) =
        first ++ '\n' :: ['\n'].intercalate (front ++ [[]]) := by
      rw [List.cons_append, List.intercalate_cons_of_ne_nil (by simp)]
      simp
    rcases ih with hnil | ⟨s, hs⟩
    · exact ⟨first, by rw [hcons, hnil]⟩
    · exact ⟨first ++ '\n' :: s, by rw [hcons, hs, List.append_assoc, List.cons_append]⟩

end BindingGlue.Text
