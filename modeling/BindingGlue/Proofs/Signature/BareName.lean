import BindingGlue.Proofs.Signature.Declaration
import BindingGlue.Types.Spelling

/-!
# The bare names of types

A type that was taken out of a line is no arbitrary spelling: it has no blank at its ends, no mark
at its end, and no `const` in front. So nothing is dropped from it, and its bare name is the type
itself with every run of blanks made one space (`IsType.bareName_eq`).
-/

namespace BindingGlue.Signature

open Text BindingGlue.Types

variable {type : List Char}

theorem IsType.head? (h : IsType type) : ∀ c ∈ type.head?, isBlank c = false := by
  obtain ⟨c, cs, rfl, hc⟩ := h.exists_cons
  intro d hd
  obtain rfl : c = d := by simpa using hd
  exact isBlank_eq_false_of_isNameStart hc

theorem IsType.isBlank_getLast? (h : IsType type) : ∀ c ∈ type.getLast?, isBlank c = false := by
  intro c hc
  rcases h.getLast? c hc with hc | rfl
  · exact isBlank_eq_false_of_isTypeChar hc
  · decide

theorem IsType.isMark_getLast? (h : IsType type) : ∀ c ∈ type.getLast?, isMark c = false := by
  intro c hc
  rcases h.getLast? c hc with hc | rfl
  · exact isMark_eq_false_of_isTypeChar hc
  · decide

theorem IsType.trim_eq (h : IsType type) : trim type = type :=
  trim_eq_self h.head? h.isBlank_getLast?

/-- No type begins with the word `const` and a space. -/
theorem IsType.dropConst_eq (h : IsType type) : dropConst type = type := by
  rw [dropConst]
  split
  case h_2 => rfl
  case h_1 rest hrest =>
    have heq : type = "const".toList ++ ' ' :: rest :=
      (List.isPrefixOf?_eq_some_iff_append_eq.1 hrest).symm
    have hends : EndsType [] := by simp [EndsType]
    have htake := takeType?_append h hends
    rw [List.append_nil, heq, takeType?_append isName_const.isType
      (endsType_cons_of_isBlank (by decide))] at htake
    exact absurd (Prod.mk.inj (Option.some.inj htake)).2 (by simp)

theorem IsType.dropMarks_eq (h : IsType type) : dropMarks type = type := by
  refine dropEndWhile_eq_self fun c hc ↦ ?_
  rw [h.isMark_getLast? c hc, h.isBlank_getLast? c hc]
  rfl

/-- **The bare name of a type** is the type with single spaces for its blanks. -/
theorem IsType.bareName_eq (h : IsType type) :
    bareName (String.ofList type) = String.ofList (singleSpaced type) := by
  rw [bareName, String.toList_ofList, h.trim_eq, h.dropConst_eq, h.dropMarks_eq]

end BindingGlue.Signature
