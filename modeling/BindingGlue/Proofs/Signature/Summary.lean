import BindingGlue.Proofs.Signature.Printed

/-!
# The summary of a signature

A summary is written for people, but it says all of a signature that can be written except whether
it is virtual (`Signature.eq_of_summary_eq`). Its two parentheses are the only ones in it, so it can
be cut into the parts that a line is written with, and no two signatures have the same line.
-/

namespace BindingGlue.Signature

open Text

variable {catalogue : Catalogue} {signature other : Signature} {c : Char}

theorem toList_summary (signature : Signature) :
    signature.summary.toList = signature.name.toList ++ '(' ::
      ((argumentList signature.arguments).toList ++ ')' ::
        (" -> ".toList ++ signature.resultType.name.toList)) := by
  show (signature.name ++ "(" ++ argumentList signature.arguments ++ ") -> " ++
    signature.resultType.name).toList = _
  simp

/-- Between its two parentheses and around them a summary has none. -/
theorem IsPrintable.isArgumentChar_of_mem (h : signature.IsPrintable catalogue)
    (hc : c ∈ signature.name.toList ∨ c ∈ (argumentList signature.arguments).toList ∨
      c ∈ " -> ".toList ++ signature.resultType.name.toList) : isArgumentChar c := by
  rcases hc with hc | hc | hc
  · exact isArgumentChar_of_isTypeChar (isTypeChar_of_isWord (h.isName.isWord_of_mem hc))
  · exact isArgumentChar_of_mem_argumentList h.isPrintable_argument hc
  · rcases List.mem_append.1 hc with hc | hc
    · have harrow : ∀ c ∈ " -> ".toList, isArgumentChar c := by simp [isArgumentChar]
      exact harrow c hc
    · exact h.isReadable_resultType.isType.isArgumentChar_of_mem hc

/-- A summary can be cut into its parts. -/
theorem parts_eq_of_summary_eq (h : signature.IsPrintable catalogue)
    (hsummary : signature.summary = other.summary) :
    signature.name = other.name ∧
      argumentList signature.arguments = argumentList other.arguments ∧
        signature.resultType.name = other.resultType.name := by
  have hopen : ¬ isArgumentChar '(' := by decide
  have hclose : ¬ isArgumentChar ')' := by decide
  have hleft : '(' ∉ signature.name.toList :=
    fun hc ↦ hopen (h.isArgumentChar_of_mem (.inl hc))
  have harguments : ∀ c, ¬ isArgumentChar c → c ∉ (argumentList signature.arguments).toList :=
    fun _ hparenthesis hc ↦ hparenthesis (h.isArgumentChar_of_mem (.inr (.inl hc)))
  have harrow : ∀ c, ¬ isArgumentChar c → c ∉ " -> ".toList ++ signature.resultType.name.toList :=
    fun _ hparenthesis hc ↦ hparenthesis (h.isArgumentChar_of_mem (.inr (.inr hc)))
  have hright : '(' ∉ (argumentList signature.arguments).toList ++ ')' ::
      (" -> ".toList ++ signature.resultType.name.toList) := by
    rw [List.mem_append, List.mem_cons]
    rintro (hc | hc | hc)
    · exact harguments _ hopen hc
    · exact absurd hc (by decide)
    · exact harrow _ hopen hc
  have htext := congrArg String.toList hsummary
  rw [toList_summary, toList_summary] at htext
  obtain ⟨hname, -, hrest⟩ := (List.append_cons_inj_of_notMem hleft hright).1 htext
  obtain ⟨hlist, -, htype⟩ :=
    (List.append_cons_inj_of_notMem (harguments _ hclose) (harrow _ hclose)).1 hrest
  exact ⟨String.toList_inj.1 hname, String.toList_inj.1 hlist,
    String.toList_inj.1 (List.append_cancel_left htype)⟩

/-- **A summary is that of one signature**, up to the mark of virtual methods and the line. -/
theorem eq_of_summary_eq (h : signature.IsPrintable catalogue) (h' : other.IsPrintable catalogue)
    (hsummary : signature.summary = other.summary) :
    other = { signature with isVirtual := other.isVirtual, line := other.line } := by
  -- both signatures are read from the line that is written of their common parts
  obtain ⟨hname, hlist, htype⟩ := parts_eq_of_summary_eq h hsummary
  have hplain : ({ signature with isVirtual := false } : Signature).IsPrintable catalogue :=
    ⟨h.isName, h.isReadable_resultType, h.isPrintable_argument, h.nodup_argumentNames⟩
  have hplain' : ({ other with isVirtual := false } : Signature).IsPrintable catalogue :=
    ⟨h'.isName, h'.isReadable_resultType, h'.isPrintable_argument, h'.nodup_argumentNames⟩
  have hread := hplain.read_eq
  have hread' := hplain'.read_eq
  have hrender : render { signature with isVirtual := false } =
      render { other with isVirtual := false } := by
    rw [render, render]
    simp only [hname, hlist, htype]
  rw [hrender, hread'] at hread
  exact congrArg (fun written : Signature ↦
    { written with isVirtual := other.isVirtual, line := other.line }) (Except.ok.inj hread)

end BindingGlue.Signature
