import BindingGlue.Proofs.Signature.Declaration

/-!
# Where the list of a line stands

The list of arguments stands between the first parenthesis of a line and the one that closes it
(`LineParts.Fits.exists_opening_of_trim`). What is in front of the list holds no parenthesis, since
neither the words nor the type nor the name does, and any other list may be put in its place. A line
with a second parenthesis that opens before one closes fits nothing (`not_fits_of_open`).
-/

namespace BindingGlue.Signature

open Text BindingGlue.Types

variable {parts : LineParts} {s opening front back : List Char}

/-! ### Texts without parentheses -/

theorem isArgumentChar_of_isBlank {c : Char} (h : isBlank c) : isArgumentChar c :=
  isArgumentChar_of_class (by decide) (by decide) h

theorem isArgumentChar_of_isMark {c : Char} (h : isMark c) : isArgumentChar c :=
  isArgumentChar_of_class (by decide) (by decide) h

theorem IsBlanks.isArgumentChar_of_mem (h : IsBlanks s) : ∀ c ∈ s, isArgumentChar c :=
  fun c hc ↦ isArgumentChar_of_isBlank (h c hc)

theorem IsQualifier.isArgumentChar_of_mem {word : String} {isThere : Bool}
    (h : IsQualifier word isThere s) (hword : IsName word.toList) : ∀ c ∈ s, isArgumentChar c :=
  h.forall_mem (fun _ hc ↦ hword.isType.isArgumentChar_of_mem hc) fun _ ↦ isArgumentChar_of_isBlank

theorem IsSeparator.isArgumentChar_of_mem (h : IsSeparator s) : ∀ c ∈ s, isArgumentChar c := by
  rcases h with ⟨hblanks, -⟩ | ⟨left, mark, right, rfl, hleft, hmark, hright⟩
  · exact hblanks.isArgumentChar_of_mem
  · rw [List.forall_mem_append, List.forall_mem_cons]
    exact ⟨hleft.isArgumentChar_of_mem, isArgumentChar_of_isMark hmark,
      hright.isArgumentChar_of_mem⟩

/-! ### The list of a line -/

/-- The list of a line stands behind its first parenthesis, and any other list may stand there. -/
theorem LineParts.Fits.exists_opening (h : parts.Fits s) :
    ∃ opening closing, s = '/' :: opening ++ '(' :: (parts.arguments.toList ++ ')' :: closing) ∧
      (∀ c ∈ opening, isArgumentChar c) ∧ (∀ c ∈ parts.arguments.toList, isArgumentChar c) ∧
      ∀ arguments : List Char, (∀ c ∈ arguments, isArgumentChar c) →
        LineParts.Fits { parts with arguments := String.ofList arguments }
          ('/' :: opening ++ '(' :: (arguments ++ ')' :: closing)) := by
  obtain ⟨blanks₁, blanks₂, marked, constant, separator, blanks₃, rest, isConst, rfl, h₁, h₂, h₃,
    hvirtual, hconst, htype, hseparator, hname, harguments⟩ := h
  refine ⟨'/' :: blanks₁ ++ "TODO:".toList ++ blanks₂ ++ marked ++ constant ++
    parts.resultType.toList ++ separator ++ parts.name.toList ++ blanks₃, rest, by simp, ?_,
    harguments, fun arguments hlist ↦ ?_⟩
  · have htype : ∀ c ∈ parts.resultType.toList, isArgumentChar c :=
      fun c hc ↦ htype.isArgumentChar_of_mem hc
    have hname : ∀ c ∈ parts.name.toList, isArgumentChar c :=
      fun c hc ↦ hname.isType.isArgumentChar_of_mem hc
    have hvirtual := hvirtual.isArgumentChar_of_mem isName_virtual
    have hconst := hconst.isArgumentChar_of_mem isName_const
    have hmarker : ∀ c ∈ "TODO:".toList, isArgumentChar c := List.all_eq_true.1 (by decide)
    simp only [List.forall_mem_append, List.forall_mem_cons]
    exact ⟨⟨⟨⟨⟨⟨⟨⟨⟨by decide, h₁.isArgumentChar_of_mem⟩, hmarker⟩, h₂.isArgumentChar_of_mem⟩,
      hvirtual⟩, hconst⟩, htype⟩, hseparator.isArgumentChar_of_mem⟩, hname⟩,
      h₃.isArgumentChar_of_mem⟩
  · refine ⟨blanks₁, blanks₂, marked, constant, separator, blanks₃, rest, isConst, by simp, h₁, h₂,
      h₃, hvirtual, hconst, htype, hseparator, hname, ?_⟩
    rwa [String.toList_ofList]

/-- The same for a line with blanks at its ends. -/
theorem LineParts.Fits.exists_opening_of_trim (h : parts.Fits (trim s)) :
    ∃ opening closing, s = opening ++ '(' :: (parts.arguments.toList ++ ')' :: closing) ∧
      (∀ c ∈ opening, isArgumentChar c) ∧ (∀ c ∈ parts.arguments.toList, isArgumentChar c) ∧
      ∀ arguments : List Char, (∀ c ∈ arguments, isArgumentChar c) →
        LineParts.Fits { parts with arguments := String.ofList arguments }
          (trim (opening ++ '(' :: (arguments ++ ')' :: closing))) := by
  obtain ⟨opening, closing, htrim, hopening, harguments, hfits⟩ := h.exists_opening
  obtain ⟨left, right, hleft, hright, hs⟩ := exists_append_trim_append s
  refine ⟨left ++ '/' :: opening, closing ++ right, ?_, ?_, harguments, fun arguments hlist ↦ ?_⟩
  · rw [hs, htrim]
    simp
  · rw [List.forall_mem_append, List.forall_mem_cons]
    exact ⟨IsBlanks.isArgumentChar_of_mem hleft, by decide, hopening⟩
  · have hlast : ∀ c ∈ (')' :: closing).getLast?, isBlank c = false := by
      intro c hc
      obtain ⟨run, hrun⟩ := List.getLast?_eq_some_iff.1 hc
      have hend : trim s = '/' :: opening ++ '(' :: (parts.arguments.toList ++ run) ++ [c] := by
        rw [htrim, hrun]
        simp
      exact isBlank_eq_false_of_trim_eq_append hend
    have hnew : left ++ '/' :: opening ++ '(' :: (arguments ++ ')' :: (closing ++ right)) =
        left ++ ('/' :: opening ++ '(' :: (arguments ++ ')' :: closing)) ++ right := by
      simp
    rw [hnew, trim_append_blanks hleft hright, trim_eq_self]
    · exact hfits arguments hlist
    · intro c hc
      obtain rfl : '/' = c := by simpa using hc
      decide
    · rw [List.append_cons, ← List.append_assoc, List.getLast?_append_of_ne_nil _ (by simp)]
      exact hlast

/-- A text whose list holds a parenthesis is no line. -/
theorem not_fits_of_open (hopening : ∀ c ∈ opening, isArgumentChar c)
    (hfront : ∀ c ∈ front, isArgumentChar c) :
    ¬ ∃ parts : LineParts, parts.Fits (trim (opening ++ '(' :: (front ++ '(' :: back))) := by
  rintro ⟨parts, hfits⟩
  obtain ⟨first, closing, heq, hfirst, harguments, -⟩ := hfits.exists_opening_of_trim
  obtain ⟨-, -, hrest⟩ :=
    append_cons_inj_of_run hopening hfirst (by decide) (by decide) heq
  obtain ⟨-, hclose, -⟩ :=
    append_cons_inj_of_run hfront harguments (by decide) (by decide) hrest
  exact absurd hclose (by decide)

end BindingGlue.Signature
