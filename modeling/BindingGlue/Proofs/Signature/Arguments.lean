import Mathlib.Data.List.ReduceOption
import Mathlib.Data.List.Forall2
import BindingGlue.Signature.Reader

/-!
# Argument lists

The parts of an argument list are read from left to right, and the first one at fault decides. This
module says what the outcome is without the recursion: the parts read as arguments if each of them
reads as one or is left out and no name comes twice (`PartsReadAs`), and otherwise some part is the
first one at fault, behind parts that read as arguments (`FirstFault`). The two cases are exactly
the two outcomes of `readParts` (`readParts_eq_ok_iff`, `readParts_eq_error_iff`).

The induction runs on the parts with the names seen so far left general, since a part is judged by
the names in front of it.
-/

namespace BindingGlue.Signature

open Text

variable {catalogue : Catalogue} {line : String} {seen : List String} {part : List Char}
  {parts : List (List Char)} {argument : Argument} {arguments : List Argument} {refusal : Refusal}

/-! ### Single parts -/

/-- The faults of a single part. -/
theorem readPart_eq_error (h : readPart catalogue line part = .error refusal) :
    refusal = .grammarMismatch (argumentFault (declarationOf part)) line ∨
      ∃ token name, refusal = .unsupportedType token .unknown line ∧
        readArgument? (declarationOf part) = some (token, name) ∧
          catalogue.argumentType? token = none := by
  simp only [readPart] at h
  split at h
  case isTrue => cases h
  case isFalse =>
    split at h
    case h_1 => exact .inl (Except.error.inj h).symm
    case h_2 token name hread =>
      split at h
      case h_1 htype => exact .inr ⟨token, name, (Except.error.inj h).symm, hread, htype⟩
      case h_2 => cases h

/-! ### One step -/

theorem readParts_cons_of_error (h : readPart catalogue line part = .error refusal) :
    readParts catalogue line seen (part :: parts) = .error refusal := by
  rw [readParts, h]
  rfl

theorem readParts_cons_of_none (h : readPart catalogue line part = .ok none) :
    readParts catalogue line seen (part :: parts) = readParts catalogue line seen parts := by
  rw [readParts, h]
  rfl

theorem readParts_cons_of_mem (h : readPart catalogue line part = .ok (some argument))
    (hseen : argument.name ∈ seen) :
    readParts catalogue line seen (part :: parts) =
      .error (.grammarMismatch (.duplicateArgument argument.name) line) := by
  rw [readParts, h]
  show (if seen.contains argument.name then _ else _) = _
  rw [if_pos (by simpa using hseen)]
  rfl

theorem readParts_cons_of_not_mem (h : readPart catalogue line part = .ok (some argument))
    (hseen : argument.name ∉ seen) :
    readParts catalogue line seen (part :: parts) =
      (readParts catalogue line (argument.name :: seen) parts).map (argument :: ·) := by
  rw [readParts, h]
  show (if seen.contains argument.name then _ else _) = _
  rw [if_neg (by simpa using hseen)]
  cases readParts catalogue line (argument.name :: seen) parts <;> rfl

/-! ### Whole lists -/

/-- Parts that read as the arguments, after arguments with the names `seen`: each part reads as one
or is left out, and no name comes twice. -/
def PartsReadAs (catalogue : Catalogue) (line : String) (seen : List String)
    (parts : List (List Char)) (arguments : List Argument) : Prop :=
  ∃ outcomes,
    List.Forall₂ (fun part outcome ↦ readPart catalogue line part = .ok outcome) parts outcomes ∧
    arguments = outcomes.reduceOption ∧ (arguments.map (·.name)).Nodup ∧
    ∀ argument ∈ arguments, argument.name ∉ seen

/-- The refusal of the first part at fault: the parts in front of it read as arguments, and either
it reads as none or it has a name that one of them has. -/
def FirstFault (catalogue : Catalogue) (line : String) (seen : List String)
    (parts : List (List Char)) (refusal : Refusal) : Prop :=
  ∃ before part after arguments, parts = before ++ part :: after ∧
    PartsReadAs catalogue line seen before arguments ∧
    (readPart catalogue line part = .error refusal ∨
      ∃ argument, readPart catalogue line part = .ok (some argument) ∧
        argument.name ∈ seen ++ arguments.map (·.name) ∧
        refusal = .grammarMismatch (.duplicateArgument argument.name) line)

theorem partsReadAs_nil : PartsReadAs catalogue line seen [] [] :=
  ⟨[], .nil, rfl, .nil, by simp⟩

theorem PartsReadAs.cons_of_none (hpart : readPart catalogue line part = .ok none)
    (h : PartsReadAs catalogue line seen parts arguments) :
    PartsReadAs catalogue line seen (part :: parts) arguments := by
  obtain ⟨outcomes, hall, rfl, hnames⟩ := h
  exact ⟨none :: outcomes, .cons hpart hall, (List.reduceOption_cons_of_none _).symm, hnames⟩

theorem PartsReadAs.cons_of_not_mem (hpart : readPart catalogue line part = .ok (some argument))
    (hseen : argument.name ∉ seen)
    (h : PartsReadAs catalogue line (argument.name :: seen) parts arguments) :
    PartsReadAs catalogue line seen (part :: parts) (argument :: arguments) := by
  obtain ⟨outcomes, hall, rfl, hnodup, hnames⟩ := h
  refine ⟨some argument :: outcomes, .cons hpart hall, (List.reduceOption_cons_of_some _ _).symm,
    ?_, ?_⟩
  · refine List.nodup_cons.2 ⟨fun hmem ↦ ?_, hnodup⟩
    obtain ⟨other, hother, heq⟩ := List.mem_map.1 hmem
    exact hnames other hother (heq ▸ List.mem_cons_self)
  · rintro other hother hmem
    rcases List.mem_cons.1 hother with rfl | hother
    · exact hseen hmem
    · exact hnames other hother (List.mem_cons_of_mem _ hmem)

theorem FirstFault.cons_of_none (hpart : readPart catalogue line part = .ok none)
    (h : FirstFault catalogue line seen parts refusal) :
    FirstFault catalogue line seen (part :: parts) refusal := by
  obtain ⟨before, culprit, after, arguments, rfl, hbefore, hfault⟩ := h
  exact ⟨part :: before, culprit, after, arguments, rfl, hbefore.cons_of_none hpart, hfault⟩

theorem FirstFault.cons_of_not_mem (hpart : readPart catalogue line part = .ok (some argument))
    (hseen : argument.name ∉ seen)
    (h : FirstFault catalogue line (argument.name :: seen) parts refusal) :
    FirstFault catalogue line seen (part :: parts) refusal := by
  obtain ⟨before, culprit, after, arguments, rfl, hbefore, hfault⟩ := h
  refine ⟨part :: before, culprit, after, argument :: arguments, rfl,
    hbefore.cons_of_not_mem hpart hseen, ?_⟩
  rcases hfault with hfault | ⟨other, hother, hmem, rfl⟩
  · exact .inl hfault
  · refine .inr ⟨other, hother, ?_, rfl⟩
    simp only [List.cons_append, List.mem_cons, List.mem_append, List.map_cons] at hmem ⊢
    tauto

/-- The outcome of reading parts is one of the two cases. -/
theorem readParts_cases (catalogue : Catalogue) (line : String) (seen : List String)
    (parts : List (List Char)) :
    (∃ arguments, readParts catalogue line seen parts = .ok arguments ∧
        PartsReadAs catalogue line seen parts arguments) ∨
      ∃ refusal, readParts catalogue line seen parts = .error refusal ∧
        FirstFault catalogue line seen parts refusal := by
  induction parts generalizing seen with
  | nil => exact .inl ⟨[], rfl, partsReadAs_nil⟩
  | cons part parts ih =>
    rcases hpart : readPart catalogue line part with refusal | _ | argument
    · exact .inr ⟨refusal, readParts_cons_of_error hpart, [], part, parts, [], rfl, partsReadAs_nil,
        .inl hpart⟩
    · rw [readParts_cons_of_none hpart]
      rcases ih seen with ⟨arguments, hread, h⟩ | ⟨refusal, hread, h⟩
      · exact .inl ⟨arguments, hread, h.cons_of_none hpart⟩
      · exact .inr ⟨refusal, hread, h.cons_of_none hpart⟩
    · by_cases hseen : argument.name ∈ seen
      · exact .inr ⟨_, readParts_cons_of_mem hpart hseen, [], part, parts, [], rfl, partsReadAs_nil,
          .inr ⟨argument, hpart, by simpa using hseen, rfl⟩⟩
      · rw [readParts_cons_of_not_mem hpart hseen]
        -- from here on the name counts as seen
        rcases ih (argument.name :: seen) with ⟨arguments, hread, h⟩ | ⟨refusal, hread, h⟩
        · exact .inl ⟨argument :: arguments, by rw [hread]; rfl, h.cons_of_not_mem hpart hseen⟩
        · exact .inr ⟨refusal, by rw [hread]; rfl, h.cons_of_not_mem hpart hseen⟩

/-- Behind parts that read as arguments, the reading goes on with their names among those seen. -/
theorem PartsReadAs.readParts_append (h : PartsReadAs catalogue line seen parts arguments)
    (rest : List (List Char)) :
    readParts catalogue line seen (parts ++ rest) =
      (readParts catalogue line ((arguments.map (·.name)).reverse ++ seen) rest).map
        (arguments ++ ·) := by
  induction parts generalizing seen arguments with
  | nil =>
    obtain ⟨outcomes, hall, rfl, -⟩ := h
    cases hall
    show readParts catalogue line seen rest = (readParts catalogue line seen rest).map id
    cases readParts catalogue line seen rest <;> rfl
  | cons part parts ih =>
    obtain ⟨outcomes, hall, rfl, hnodup, hnames⟩ := h
    obtain _ | ⟨hpart, hall⟩ := hall
    rename_i outcome outcomes
    cases outcome with
    | none =>
      rw [List.reduceOption_cons_of_none] at hnodup hnames ⊢
      rw [List.cons_append, readParts_cons_of_none hpart, ih ⟨outcomes, hall, rfl, hnodup, hnames⟩]
    | some argument =>
      rw [List.reduceOption_cons_of_some] at hnodup hnames ⊢
      obtain ⟨hfresh, hnodup⟩ := List.nodup_cons.1 hnodup
      -- no name comes twice, so the later ones are new behind this one too
      have hlater : ∀ other ∈ outcomes.reduceOption, other.name ∉ argument.name :: seen := by
        intro other hother hmem
        rcases List.mem_cons.1 hmem with heq | hmem
        · exact hfresh (List.mem_map.2 ⟨other, hother, heq⟩)
        · exact hnames other (List.mem_cons_of_mem _ hother) hmem
      rw [List.cons_append, readParts_cons_of_not_mem hpart (hnames argument List.mem_cons_self),
        ih ⟨outcomes, hall, rfl, hnodup, hlater⟩, List.map_cons, List.reverse_cons,
        List.append_assoc, List.singleton_append]
      cases readParts catalogue line _ rest <;> rfl

theorem readParts_eq_ok_iff :
    readParts catalogue line seen parts = .ok arguments ↔
      PartsReadAs catalogue line seen parts arguments := by
  constructor
  · intro h
    rcases readParts_cases catalogue line seen parts with ⟨_, hread, hparts⟩ | ⟨_, hread, -⟩
    · exact Except.ok.inj (hread.symm.trans h) ▸ hparts
    · exact absurd (hread.symm.trans h) (by simp)
  · intro h
    have hread := h.readParts_append []
    rw [List.append_nil] at hread
    rw [hread]
    show Except.ok (arguments ++ []) = _
    rw [List.append_nil]

theorem readParts_eq_error_iff :
    readParts catalogue line seen parts = .error refusal ↔
      FirstFault catalogue line seen parts refusal := by
  constructor
  · intro h
    rcases readParts_cases catalogue line seen parts with ⟨_, hread, -⟩ | ⟨_, hread, hfault⟩
    · exact absurd (hread.symm.trans h) (by simp)
    · exact Except.error.inj (hread.symm.trans h) ▸ hfault
  · rintro ⟨before, part, after, arguments, rfl, hbefore, hfault⟩
    rw [hbefore.readParts_append]
    rcases hfault with hpart | ⟨argument, hpart, hmem, rfl⟩
    · rw [readParts_cons_of_error hpart]
      rfl
    · rw [readParts_cons_of_mem hpart (by simpa [or_comm] using hmem)]
      rfl

/-! ### From the text between the parentheses -/

/-- The parts of the text between the parentheses of a line. A blank text and a lone `void` have
none. -/
def argumentParts (text : String) : List (List Char) :=
  let inner := trim text.toList
  if inner.isEmpty || inner = "void".toList then [] else inner.splitOn ','

theorem readArguments_eq_readParts (catalogue : Catalogue) (line text : String) :
    readArguments catalogue line text = readParts catalogue line [] (argumentParts text) := by
  simp only [readArguments, argumentParts]
  split <;> rfl

end BindingGlue.Signature
