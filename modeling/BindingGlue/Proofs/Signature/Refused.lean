import BindingGlue.Proofs.Fragments.Property
import BindingGlue.Proofs.Signature.ClosedVocabulary
import BindingGlue.Proofs.Text.Lines

/-!
# Refused lines

What holds of every refusal of a signature line, under any catalogue: it names the line, it comes
under one of two codes, and its message has no end of a line in it unless the line has
(`Refusal.IsOf`). A message is put together from fixed words and from a piece of the line or the
name of a type. The names in a catalogue may hold anything, but a type that a line was read with has
the spelling in the line as its name, with single spaces for its blanks.
-/

namespace BindingGlue

open Text

/-! ### Messages -/

/-- What a fault says about the input besides fixed words. -/
def GrammarFault.subject : GrammarFault → String
  | shape => ""
  | unnamedArgument declaration => declaration
  | malformedArgument declaration => declaration
  | duplicateArgument name => name
  | setterArity method => method
  | getterArity method => method
  | described message => message

/-- A message is what it is about between fixed words. -/
theorem GrammarFault.exists_message_eq (fault : GrammarFault) :
    ∃ before after : String, fault.message = before ++ fault.subject ++ after ∧
      OnOneLine before.toList ∧ OnOneLine after.toList := by
  cases fault with
  | shape => exact ⟨"line does not match the signature grammar", "", rfl, by decide, by decide⟩
  | unnamedArgument => exact ⟨"argument '", "' has no name", rfl, by decide, by decide⟩
  | malformedArgument => exact ⟨"malformed argument '", "'", rfl, by decide, by decide⟩
  | duplicateArgument => exact ⟨"duplicate argument name '", "'", rfl, by decide, by decide⟩
  | setterArity =>
    exact ⟨"property setter '", "' must take exactly one argument", rfl, by decide, by decide⟩
  | getterArity =>
    exact ⟨"property getter '", "' must not take arguments", rfl, by decide, by decide⟩
  | described text =>
    refine ⟨"", "", ?_, by decide, by decide⟩
    rw [String.empty_append, String.append_empty]
    rfl

theorem TypeFault.exists_message_eq {fault : TypeFault} (h : ∀ reason, fault ≠ described reason)
    (token : String) :
    ∃ before after : String, fault.message token = before ++ token ++ after ∧
      OnOneLine before.toList ∧ OnOneLine after.toList := by
  cases fault with
  | described reason => exact (h reason rfl).elim
  | unknown => exact ⟨"unsupported type '", "'", rfl, by decide, by decide⟩
  | unreadable => exact ⟨"type '", "' cannot be read as a property", rfl, by decide, by decide⟩

/-- A refusal of the line, for a fault of the signature in it. -/
structure Refusal.IsOf (refusal : Refusal) (line : String) : Prop where
  line_eq : refusal.line = line
  code_eq : refusal.code = .grammarMismatch ∨ refusal.code = .unsupportedType
  onOneLine_message : OnOneLine line.toList → OnOneLine refusal.message.toList

variable {catalogue : Catalogue} {options : Options} {line text : String} {part : List Char}
  {parts : List (List Char)} {refusal : Refusal} {signature : Signature}

theorem Refusal.isOf_grammarMismatch {fault : GrammarFault}
    (h : OnOneLine line.toList → OnOneLine fault.subject.toList) :
    (Refusal.grammarMismatch fault line).IsOf line := by
  refine ⟨rfl, .inl rfl, fun hline ↦ ?_⟩
  obtain ⟨before, after, hmessage, hbefore, hafter⟩ := fault.exists_message_eq
  have hrefusal : (grammarMismatch fault line).message = fault.message := rfl
  simp [hrefusal, hmessage, hbefore, hafter, h hline]

theorem Refusal.isOf_unsupportedType {fault : TypeFault} {token : String}
    (hfault : ∀ reason, fault ≠ .described reason)
    (h : OnOneLine line.toList → OnOneLine token.toList) :
    (Refusal.unsupportedType token fault line).IsOf line := by
  refine ⟨rfl, .inr rfl, fun hline ↦ ?_⟩
  obtain ⟨before, after, hmessage, hbefore, hafter⟩ := TypeFault.exists_message_eq hfault token
  have hrefusal : (unsupportedType token fault line).message = fault.message token := rfl
  simp [hrefusal, hmessage, hbefore, hafter, h hline]

/-! ### Refused by the reader -/

namespace Signature

/-- The fault of a part names what stands in it. -/
theorem isOf_of_readPart (hwithin : part <:+: line.toList)
    (h : readPart catalogue line part = .error refusal) : refusal.IsOf line := by
  have hdeclaration := (declarationOf_isInfix part).trans hwithin
  rcases readPart_eq_error h with rfl | ⟨token, name, rfl, hread, -⟩
  · refine Refusal.isOf_grammarMismatch fun hline ↦ ?_
    rw [argumentFault]
    split
    all_goals
      simp only [GrammarFault.subject, String.toList_ofList]
      exact hline.of_isInfix hdeclaration
  · have htoken := (readArgument?_sound hread).isInfix_type.trans hdeclaration
    exact Refusal.isOf_unsupportedType (by simp) fun hline ↦ hline.of_isInfix htoken

theorem FirstFault.isOf {seen : List String} (hwithin : ∀ part ∈ parts, part <:+: line.toList)
    (h : FirstFault catalogue line seen parts refusal) : refusal.IsOf line := by
  obtain ⟨before, part, after, arguments, rfl, -, hpart | ⟨argument, hpart, -, rfl⟩⟩ := h
  · exact isOf_of_readPart (hwithin part (by simp)) hpart
  · obtain ⟨spelling, hread, -⟩ := exists_of_readPart_eq_some hpart
    exact Refusal.isOf_grammarMismatch fun _ ↦ onOneLine_of_isWord (isWord_of_readArgument? hread)

/-- A line that is not read as a signature has a refusal of its own. -/
theorem isOf_of_read (h : read catalogue text = .error refusal) :
    refusal.IsOf (String.ofList (trim text.toList)) := by
  by_cases hfits : ∃ parts : LineParts, parts.Fits (trim text.toList)
  case neg =>
    rw [read_of_not_fits hfits] at h
    obtain rfl := Except.error.inj h
    exact Refusal.isOf_grammarMismatch fun _ ↦ by decide
  case pos =>
    obtain ⟨parts, hfits⟩ := hfits
    rw [read_of_fits hfits, LineParts.outcome] at h
    cases htype : catalogue.resultType? parts.resultType with
    | none =>
      simp only [htype] at h
      obtain rfl := Except.error.inj h
      refine Refusal.isOf_unsupportedType (by simp) fun hline ↦ ?_
      rw [String.toList_ofList] at hline
      exact hline.of_isInfix hfits.isInfix_resultType
    | some resultType =>
      simp only [htype] at h
      rcases hread : readParts catalogue _ [] (argumentParts parts.arguments) with
        refusal' | arguments
      · rw [hread] at h
        obtain rfl := Except.error.inj h
        refine (readParts_eq_error_iff.1 hread).isOf fun part hpart ↦ ?_
        rw [String.toList_ofList]
        exact (isInfix_of_mem_argumentParts hpart).trans hfits.isInfix_arguments
      · rw [hread] at h
        cases h

/-! ### Refused as a property -/

/-- A signature keeps its line, trimmed. -/
theorem line_of_read (h : read catalogue text = .ok signature) :
    signature.line = String.ofList (trim text.toList) := by
  by_cases hfits : ∃ parts : LineParts, parts.Fits (trim text.toList)
  case neg =>
    rw [read_of_not_fits hfits] at h
    cases h
  case pos =>
    obtain ⟨parts, hfits⟩ := hfits
    rw [read_of_fits hfits, LineParts.outcome] at h
    split at h
    case h_1 => cases h
    case h_2 resultType _ =>
      rcases hread : readParts catalogue _ [] (argumentParts parts.arguments) with
        refusal | arguments
      · rw [hread] at h
        cases h
      · rw [hread] at h
        obtain rfl := Except.ok.inj h
        rfl

/-- The name of the result type has no end of a line in it, whatever the catalogue holds. -/
theorem onOneLine_resultType (h : read catalogue text = .ok signature) :
    OnOneLine signature.resultType.name.toList := by
  obtain ⟨parts, hfits, -, htype, -⟩ := exists_fits_of_read h
  rw [name_eq_singleSpaced hfits.isType (Catalogue.resultType?_eq_some htype).2]
  exact onOneLine_singleSpaced _

theorem onOneLine_name (h : read catalogue text = .ok signature) :
    OnOneLine signature.name.toList :=
  onOneLine_of_isWord fun _ hc ↦ (isName_of_read h).isWord_of_mem hc

/-- A signature that is no property has a refusal of its line. -/
theorem isOf_of_isUnfit (hread : read catalogue text = .ok signature)
    (h : Typed.IsUnfit signature refusal) :
    refusal.IsOf (String.ofList (trim text.toList)) := by
  rw [← line_of_read hread]
  cases h with
  | setterArity | getterArity =>
    exact Refusal.isOf_grammarMismatch fun _ ↦ onOneLine_name hread
  | unreadable =>
    exact Refusal.isOf_unsupportedType (by simp) fun _ ↦ onOneLine_resultType hread

end Signature

end BindingGlue
