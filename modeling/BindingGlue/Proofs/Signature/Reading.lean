import BindingGlue.Proofs.Signature.Arguments
import BindingGlue.Proofs.Signature.Line

/-!
# Reading a line

`Signature.read` puts the grammar and the catalogue together: a line that fits no parts is refused
for its shape, and a line that fits parts has the outcome of these parts (`read_of_fits`). The line
itself enters an outcome only as what is shown to the user, so two lines that fit the same parts
have the same outcome up to that (`read_eq_inLine_of_fits`).
-/

namespace BindingGlue

/-- The refusal of the same fault in another line. -/
def Refusal.inLine (line : String) : Refusal → Refusal
  | noInput => noInput
  | missingHeader _ => missingHeader line
  | grammarMismatch fault _ => grammarMismatch fault line
  | unsupportedType token fault _ => unsupportedType token fault line
  | custom code message _ => custom code message line

namespace Signature

open Text

variable {catalogue : Catalogue} {parts : LineParts} {line text : String} {refusal : Refusal}

/-- The outcome that another line with the same parts has. -/
def outcomeInLine (line : String) : Except Refusal Signature → Except Refusal Signature
  | .ok signature => .ok { signature with line }
  | .error refusal => .error (refusal.inLine line)

/-! ### The outcome of parts -/

/-- What becomes of parts that were read from a line. -/
def LineParts.outcome (catalogue : Catalogue) (line : String) (parts : LineParts) :
    Except Refusal Signature :=
  match catalogue.resultType? parts.resultType with
  | none => .error (.unsupportedType parts.resultType .unknown line)
  | some resultType =>
    (readParts catalogue line [] (argumentParts parts.arguments)).map fun arguments ↦
      { name := parts.name, resultType, arguments, isVirtual := parts.isVirtual, line }

theorem read_of_fits (h : parts.Fits (trim text.toList)) :
    read catalogue text = parts.outcome catalogue (String.ofList (trim text.toList)) := by
  rw [read, LineParts.outcome]
  simp only [readLine?_eq_some_iff.2 h, readArguments_eq_readParts]
  cases catalogue.resultType? parts.resultType with
  | none => rfl
  | some resultType => cases readParts catalogue _ [] (argumentParts parts.arguments) <;> rfl

theorem read_of_not_fits (h : ¬ ∃ parts : LineParts, parts.Fits (trim text.toList)) :
    read catalogue text =
      .error (.grammarMismatch .shape (String.ofList (trim text.toList))) := by
  simp only [read, readLine?_eq_none_iff.2 h]

/-! ### The line in an outcome -/

theorem readPart_inLine (catalogue : Catalogue) (line other : String) (part : List Char) :
    readPart catalogue other part = (readPart catalogue line part).mapError (·.inLine other) := by
  simp only [readPart]
  split
  case isTrue => rfl
  case isFalse =>
    split
    case h_1 => rfl
    case h_2 => split <;> rfl

theorem readParts_inLine (catalogue : Catalogue) (line other : String) (seen : List String)
    (parts : List (List Char)) :
    readParts catalogue other seen parts =
      (readParts catalogue line seen parts).mapError (·.inLine other) := by
  induction parts generalizing seen with
  | nil => rfl
  | cons part parts ih =>
    have hpart := readPart_inLine catalogue line other part
    rcases hline : readPart catalogue line part with refusal | _ | argument <;> rw [hline] at hpart
    · rw [readParts_cons_of_error hline, readParts_cons_of_error hpart]
      rfl
    · rw [readParts_cons_of_none hline, readParts_cons_of_none hpart, ih]
    · by_cases hseen : argument.name ∈ seen
      · rw [readParts_cons_of_mem hline hseen, readParts_cons_of_mem hpart hseen]
        rfl
      · rw [readParts_cons_of_not_mem hline hseen, readParts_cons_of_not_mem hpart hseen, ih]
        cases readParts catalogue line (argument.name :: seen) parts <;> rfl

theorem LineParts.outcome_inLine (catalogue : Catalogue) (line other : String)
    (parts : LineParts) :
    parts.outcome catalogue other = outcomeInLine other (parts.outcome catalogue line) := by
  simp only [LineParts.outcome]
  cases catalogue.resultType? parts.resultType with
  | none => rfl
  | some resultType =>
    rw [readParts_inLine catalogue line other]
    cases readParts catalogue line [] (argumentParts parts.arguments) <;> rfl

/-- Two lines with the same parts have the same outcome, each with its own line in it. -/
theorem read_eq_inLine_of_fits {other : String} (h : parts.Fits (trim text.toList))
    (hother : parts.Fits (trim other.toList)) :
    read catalogue other =
      outcomeInLine (String.ofList (trim other.toList)) (read catalogue text) := by
  rw [read_of_fits h, read_of_fits hother, ← LineParts.outcome_inLine]

/-! ### The refusal for the shape -/

/-- The message of a line that is no signature begins unlike those of argument lists. -/
private theorem message_ne_shape_of_head? {message : String}
    (h : message.toList.head? ≠ some 'l') : message ≠ GrammarFault.shape.message := by
  rintro rfl
  apply h
  show "line does not match the signature grammar".toList.head? = some 'l'
  simp

theorem message_argumentFault_ne_shape (declaration : List Char) :
    (argumentFault declaration).message ≠ GrammarFault.shape.message := by
  apply message_ne_shape_of_head?
  simp only [argumentFault]
  split
  · show ("argument '" ++ String.ofList declaration ++ "' has no name").toList.head? ≠ some 'l'
    simp
  · show ("malformed argument '" ++ String.ofList declaration ++ "'").toList.head? ≠ some 'l'
    simp

theorem message_duplicateArgument_ne_shape (name : String) :
    (GrammarFault.duplicateArgument name).message ≠ GrammarFault.shape.message := by
  apply message_ne_shape_of_head?
  show ("duplicate argument name '" ++ name ++ "'").toList.head? ≠ some 'l'
  simp

theorem FirstFault.message_ne_shape {seen : List String} {parts : List (List Char)}
    (h : FirstFault catalogue line seen parts refusal) (hcode : refusal.code = .grammarMismatch) :
    refusal.message ≠ GrammarFault.shape.message := by
  obtain ⟨before, part, after, arguments, -, -, hpart | ⟨argument, -, -, rfl⟩⟩ := h
  · rcases readPart_eq_error hpart with rfl | ⟨token, name, rfl, -⟩
    · exact message_argumentFault_ne_shape (declarationOf part)
    · cases hcode
  · exact message_duplicateArgument_ne_shape argument.name

/-- A line is refused for its shape exactly if it fits no parts. -/
theorem exists_read_eq_shape_iff (catalogue : Catalogue) (text : String) :
    (∃ refusal, read catalogue text = .error refusal ∧ refusal.code = .grammarMismatch ∧
        refusal.message = "line does not match the signature grammar" ∧
        refusal.line = String.ofList (trim text.toList)) ↔
      ¬ ∃ parts : LineParts, parts.Fits (trim text.toList) := by
  constructor
  · rintro ⟨refusal, hread, hcode, hmessage, -⟩ ⟨parts, hfits⟩
    rw [read_of_fits hfits, LineParts.outcome] at hread
    cases htype : catalogue.resultType? parts.resultType with
    | none =>
      simp only [htype] at hread
      obtain rfl := Except.error.inj hread
      cases hcode
    | some resultType =>
      simp only [htype] at hread
      rcases hparts : readParts catalogue _ [] (argumentParts parts.arguments) with
        fault | arguments
      · rw [hparts] at hread
        obtain rfl := Except.error.inj hread
        exact (readParts_eq_error_iff.1 hparts).message_ne_shape hcode hmessage
      · rw [hparts] at hread
        cases hread
  · intro h
    exact ⟨_, read_of_not_fits h, rfl, rfl, rfl⟩

/-- **Reading a line is deciding its grammar.** A trimmed line fits at most one choice of parts. It
is refused for its shape exactly if it fits none. Otherwise the parts alone have the outcome: an
unknown result type is refused, then the first argument part at fault, and a line without a fault is
the signature with these parts. Nothing else of the line matters, except that it is shown. -/
theorem read_exact_grammar (catalogue : Catalogue) (text : String) :
    (∀ parts other : LineParts, parts.Fits (trim text.toList) → other.Fits (trim text.toList) →
      parts = other) ∧
    ((∃ refusal, read catalogue text = .error refusal ∧ refusal.code = .grammarMismatch ∧
        refusal.message = "line does not match the signature grammar" ∧
        refusal.line = String.ofList (trim text.toList)) ↔
      ¬ ∃ parts : LineParts, parts.Fits (trim text.toList)) ∧
    ∀ parts : LineParts, parts.Fits (trim text.toList) →
      (catalogue.resultType? parts.resultType = none →
        read catalogue text =
          .error (.unsupportedType parts.resultType .unknown (String.ofList (trim text.toList)))) ∧
      (∀ resultType, catalogue.resultType? parts.resultType = some resultType →
        (∀ refusal,
          FirstFault catalogue (String.ofList (trim text.toList)) [] (argumentParts parts.arguments)
            refusal →
          read catalogue text = .error refusal) ∧
        (∀ arguments,
          PartsReadAs catalogue (String.ofList (trim text.toList)) []
            (argumentParts parts.arguments) arguments →
          read catalogue text = .ok
            { name := parts.name, resultType, arguments, isVirtual := parts.isVirtual,
              line := String.ofList (trim text.toList) }) ∧
        ((∃ refusal, FirstFault catalogue (String.ofList (trim text.toList)) []
            (argumentParts parts.arguments) refusal) ∨
          ∃ arguments, PartsReadAs catalogue (String.ofList (trim text.toList)) []
            (argumentParts parts.arguments) arguments)) ∧
      ∀ other : String, parts.Fits (trim other.toList) →
        read catalogue other =
          outcomeInLine (String.ofList (trim other.toList)) (read catalogue text) := by
  refine ⟨fun parts other h h' ↦ h.unique h', exists_read_eq_shape_iff catalogue text,
    fun parts hfits ↦ ⟨fun htype ↦ ?_, fun resultType htype ↦ ⟨fun refusal hfault ↦ ?_,
      fun arguments harguments ↦ ?_, ?_⟩, fun other hother ↦ read_eq_inLine_of_fits hfits hother⟩⟩
  · simp only [read_of_fits hfits, LineParts.outcome, htype]
  · simp only [read_of_fits hfits, LineParts.outcome, htype, readParts_eq_error_iff.2 hfault]
    rfl
  · simp only [read_of_fits hfits, LineParts.outcome, htype, readParts_eq_ok_iff.2 harguments]
    rfl
  · rcases readParts_cases catalogue (String.ofList (trim text.toList)) []
        (argumentParts parts.arguments) with ⟨arguments, -, h⟩ | ⟨refusal, -, h⟩
    · exact .inr ⟨arguments, h⟩
    · exact .inl ⟨refusal, h⟩

/-- A word that could be a qualifier is the result type of a method that has no other. -/
theorem read_exact_grammar_virtualType :
    read Catalogue.standard "// TODO: virtual f();" =
      .error (.unsupportedType "virtual" .unknown "// TODO: virtual f();") := by
  have hfits : LineParts.Fits
      { isVirtual := false, resultType := "virtual", name := "f", arguments := "" }
      (trim "// TODO: virtual f();".toList) := by
    rw [String.toList_ofList, ← readLine?_eq_some_iff]
    rfl
  have htrim : String.ofList (trim "// TODO: virtual f();".toList) = "// TODO: virtual f();" := by
    rw [String.toList_ofList]
    rfl
  have hread := ((read_exact_grammar Catalogue.standard "// TODO: virtual f();").2.2 _ hfits).1 rfl
  rwa [htrim] at hread

end Signature

end BindingGlue
