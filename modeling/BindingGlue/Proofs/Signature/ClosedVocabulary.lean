import BindingGlue.Proofs.Signature.Accepted
import BindingGlue.Proofs.Signature.BareName

/-!
# The vocabulary is closed

A signature has no type that is not both written in its line and registered in the catalogue: the
name of each type is the spelling in the line with single spaces for its blanks, and the look-up of
that name gives the type (`Signature.read_closed`). No spelling is corrected or completed.

A line that is refused for a type is refused for a spelling that stands in it, and that stands for
no type on its side, as a result or as an argument.
-/

namespace BindingGlue

open Text BindingGlue.Types

/-- An argument as it stands in a part of a list: the spelling of its type is taken from the
declaration in the part, and the name of the type is this spelling with single spaces for its
blanks. -/
def Argument.IsDeclaredIn (argument : Argument) (part : List Char) : Prop :=
  ∃ spelling, Signature.readArgument? (Signature.declarationOf part) =
      some (spelling, argument.name) ∧
    Signature.ArgumentFits spelling.toList argument.name.toList (Signature.declarationOf part) ∧
    argument.type.name.toList = singleSpaced spelling.toList

namespace Signature

/-- A spelling in a line that stands for no type where it is: as the result or, in a part of the
list of arguments, as an argument. -/
def LineParts.HasUnknown (catalogue : Catalogue) (parts : LineParts) (spelling : String) : Prop :=
  (spelling = parts.resultType ∧ catalogue.resultType? spelling = none) ∨
    ∃ part ∈ argumentParts parts.arguments, ∃ name,
      readArgument? (declarationOf part) = some (spelling, name) ∧
        catalogue.argumentType? spelling = none

variable {catalogue : Catalogue} {line text spelling : String} {part s : List Char}
  {parts : LineParts} {argument : Argument} {type : TypeEntry} {outcomes : List (Option Argument)}
  {refusal : Refusal}

/-! ### Where the parts of a line stand -/

/-- The declaration in a part stands in it. -/
theorem declarationOf_isInfix (part : List Char) : declarationOf part <:+: part :=
  (trim_isInfix _).trans (List.takeWhile_prefix _).isInfix

/-- The parts of a list of arguments stand in it. -/
theorem isInfix_of_mem_argumentParts (h : part ∈ argumentParts text) : part <:+: text.toList := by
  simp only [argumentParts] at h
  split at h
  case isTrue => cases h
  case isFalse => exact (isInfix_of_mem_splitOn h).trans (trim_isInfix _)

theorem ArgumentFits.isInfix_type {type name declaration : List Char}
    (h : ArgumentFits type name declaration) : type <:+: declaration := by
  obtain ⟨constant, _, separator, rfl, -⟩ := h
  exact ⟨constant, separator ++ name, by simp⟩

theorem LineParts.Fits.isInfix_resultType (h : parts.Fits s) : parts.resultType.toList <:+: s := by
  obtain ⟨blanks₁, blanks₂, marked, constant, separator, blanks₃, rest, _, rfl, -⟩ := h
  exact ⟨"//".toList ++ blanks₁ ++ "TODO:".toList ++ blanks₂ ++ marked ++ constant,
    separator ++ parts.name.toList ++ blanks₃ ++ '(' :: parts.arguments.toList ++ ')' :: rest,
    by simp⟩

theorem LineParts.Fits.isInfix_arguments (h : parts.Fits s) : parts.arguments.toList <:+: s := by
  obtain ⟨blanks₁, blanks₂, marked, constant, separator, blanks₃, rest, _, rfl, -⟩ := h
  exact ⟨"//".toList ++ blanks₁ ++ "TODO:".toList ++ blanks₂ ++ marked ++ constant ++
    parts.resultType.toList ++ separator ++ parts.name.toList ++ blanks₃ ++ ['('], ')' :: rest,
    by simp⟩

theorem LineParts.Fits.isType (h : parts.Fits s) : IsType parts.resultType.toList := by
  obtain ⟨_, _, _, _, _, _, _, _, -, -, -, -, -, -, htype, -⟩ := h
  exact htype

/-! ### Names of types -/

/-- An entry that is found under the bare name of a type has the type as its name, up to blanks. -/
theorem name_eq_singleSpaced (hspelling : IsType spelling.toList)
    (hname : type.name = bareName spelling) :
    type.name.toList = singleSpaced spelling.toList := by
  have hbare := hspelling.bareName_eq
  rw [String.ofList_toList] at hbare
  rw [hname, hbare, String.toList_ofList]

/-- An argument that is read from a part is declared in it. -/
theorem isDeclaredIn_of_readPart (h : readPart catalogue line part = .ok (some argument)) :
    argument.IsDeclaredIn part := by
  obtain ⟨spelling, hread, htype, -⟩ := exists_of_readPart_eq_some h
  have hfits := readArgument?_sound hread
  obtain ⟨_, _, _, -, -, hspelling, -⟩ := id hfits
  have hname := (Catalogue.argumentType?_eq_some htype).2.2
  exact ⟨spelling, hread, hfits, name_eq_singleSpaced hspelling hname⟩

/-- The arguments are declared in the parts that are not left out, in order. -/
theorem PartsReadAs.sublistForall₂ {seen : List String} {parts : List (List Char)}
    {arguments : List Argument} (h : PartsReadAs catalogue line seen parts arguments) :
    List.SublistForall₂ Argument.IsDeclaredIn arguments parts := by
  obtain ⟨outcomes, hall, rfl, -⟩ := h
  induction hall with
  | nil => exact .nil
  | @cons part outcome parts outcomes hpart _ ih =>
    cases outcome with
    | none =>
      rw [List.reduceOption_cons_of_none]
      exact ih.cons_right
    | some argument =>
      rw [List.reduceOption_cons_of_some]
      exact .cons (isDeclaredIn_of_readPart hpart) ih

/-! ### Unknown types -/

/-- A spelling that stands for no type stands in the line as it is. -/
theorem LineParts.Fits.isInfix_of_hasUnknown (h : parts.Fits s)
    (hunknown : parts.HasUnknown catalogue spelling) : spelling.toList <:+: s := by
  rcases hunknown with ⟨rfl, -⟩ | ⟨part, hpart, name, hread, -⟩
  · exact h.isInfix_resultType
  · have hdeclaration := (readArgument?_sound hread).isInfix_type
    have hlist := (declarationOf_isInfix part).trans (isInfix_of_mem_argumentParts hpart)
    exact (hdeclaration.trans hlist).trans h.isInfix_arguments

/-- Parts of a list that are refused for a type have it in one of them. -/
theorem FirstFault.exists_unknown {seen : List String} {parts : List (List Char)}
    (h : FirstFault catalogue line seen parts refusal) (hcode : refusal.code = .unsupportedType) :
    ∃ spelling, refusal = .unsupportedType spelling .unknown line ∧ ∃ part ∈ parts, ∃ name,
      readArgument? (declarationOf part) = some (spelling, name) ∧
        catalogue.argumentType? spelling = none := by
  obtain ⟨before, part, after, arguments, rfl, -, hpart | ⟨argument, -, -, rfl⟩⟩ := h
  · rcases readPart_eq_error hpart with rfl | ⟨spelling, name, rfl, hread, htype⟩
    · cases hcode
    · exact ⟨spelling, rfl, part, by simp, name, hread, htype⟩
  · cases hcode

/-- A line that is refused for a type has it, as the result or as an argument. -/
theorem exists_hasUnknown_of_read (h : read catalogue text = .error refusal)
    (hcode : refusal.code = .unsupportedType) :
    ∃ parts : LineParts, parts.Fits (trim text.toList) ∧ ∃ spelling,
      refusal = .unsupportedType spelling .unknown (String.ofList (trim text.toList)) ∧
        parts.HasUnknown catalogue spelling := by
  by_cases hfits : ∃ parts : LineParts, parts.Fits (trim text.toList)
  case neg =>
    rw [read_of_not_fits hfits] at h
    obtain rfl := Except.error.inj h
    cases hcode
  case pos =>
    obtain ⟨parts, hfits⟩ := hfits
    refine ⟨parts, hfits, ?_⟩
    rw [read_of_fits hfits, LineParts.outcome] at h
    cases htype : catalogue.resultType? parts.resultType with
    | none =>
      simp only [htype] at h
      exact ⟨parts.resultType, (Except.error.inj h).symm, .inl ⟨rfl, htype⟩⟩
    | some resultType =>
      simp only [htype] at h
      rcases hread : readParts catalogue _ [] (argumentParts parts.arguments) with
        refusal' | arguments
      · rw [hread] at h
        obtain rfl := Except.error.inj h
        obtain ⟨spelling, heq, hunknown⟩ :=
          (readParts_eq_error_iff.1 hread).exists_unknown hcode
        exact ⟨spelling, heq, .inr hunknown⟩
      · rw [hread] at h
        cases h

/-! ### The closed vocabulary -/

/-- **The vocabulary is closed.** The arguments of a signature have names that are words and come
once, and types that the catalogue has for arguments, none of them without values or a list; the
result type is one that the catalogue has for results; and each type has the name that stands in the
line, up to blanks. A line that is refused for a type has a spelling, shown as it stands, that the
catalogue does not have on its side. -/
theorem read_closed (catalogue : Catalogue) (text : String) :
    (∀ signature, read catalogue text = .ok signature →
      signature.argumentNames.Nodup ∧
      (∀ argument ∈ signature.arguments,
        argument.name ≠ "" ∧ (∀ c ∈ argument.name.toList, isWord c) ∧
        lastNamed? catalogue.arguments argument.type.name = some argument.type ∧
        argument.type.category ≠ .void ∧ argument.type.packing ≠ .objectList) ∧
      lastNamed? catalogue.results signature.resultType.name = some signature.resultType ∧
      ∃ parts : LineParts, parts.Fits (trim text.toList) ∧
        signature.resultType.name.toList = singleSpaced parts.resultType.toList ∧
        List.SublistForall₂ Argument.IsDeclaredIn signature.arguments
          (argumentParts parts.arguments)) ∧
    ∀ refusal, read catalogue text = .error refusal → refusal.code = .unsupportedType →
      ∃ parts : LineParts, parts.Fits (trim text.toList) ∧ ∃ spelling,
        refusal = .unsupportedType spelling .unknown (String.ofList (trim text.toList)) ∧
        spelling.toList <:+: trim text.toList ∧ parts.HasUnknown catalogue spelling := by
  refine ⟨fun signature h ↦ ?_, fun refusal h hcode ↦ ?_⟩
  · obtain ⟨parts, hfits, -, htype, hparts⟩ := exists_fits_of_read h
    have hname := (Catalogue.resultType?_eq_some htype).2
    refine ⟨?_, fun argument hargument ↦ ?_, lastNamed?_name htype, parts, hfits,
      name_eq_singleSpaced hfits.isType hname, hparts.sublistForall₂⟩
    · obtain ⟨_, -, -, hnodup, -⟩ := hparts
      exact hnodup
    · obtain ⟨part, -, hpart⟩ := hparts.exists_part hargument
      obtain ⟨spelling, -, hfound, hne⟩ := exists_of_readPart_eq_some hpart
      obtain ⟨-, hpassable, hword⟩ := argument_of_read h hargument
      exact ⟨hne, hword, lastNamed?_name hfound,
        TypeEntry.category_ne_void_of_isPassable hpassable,
        TypeEntry.packing_ne_objectList_of_isPassable hpassable⟩
  · obtain ⟨parts, hfits, spelling, rfl, hunknown⟩ := exists_hasUnknown_of_read h hcode
    exact ⟨parts, hfits, spelling, rfl, hfits.isInfix_of_hasUnknown hunknown, hunknown⟩

/-- A type that is written with other blanks than its entry, and a list, which is known as a result
and not as an argument. -/
theorem read_closed_list :
    (∃ signature, read { entries := [Vocabulary.signed "Map< int >"] }
        "// TODO: Map<\tint\n> f(const Map<  int >& a = 1, void)" = .ok signature ∧
      lastNamed? [Vocabulary.void, Vocabulary.signed "Map< int >"] signature.resultType.name =
        some signature.resultType ∧ signature.argumentNames.Nodup) ∧
    read Catalogue.standard "// TODO: QList<QRect> f(QList<QRect> a)" =
      .error (.unsupportedType "QList<QRect>" .unknown "// TODO: QList<QRect> f(QList<QRect> a)") ∧
    ∃ parts : LineParts, parts.HasUnknown Catalogue.standard "QList<QRect>" := by
  obtain ⟨signature, hread⟩ : ∃ signature, read { entries := [Vocabulary.signed "Map< int >"] }
      "// TODO: Map<\tint\n> f(const Map<  int >& a = 1, void)" = .ok signature := by
    refine ⟨{
      name := "f"
      resultType := Vocabulary.signed "Map< int >"
      arguments := [{ type := Vocabulary.signed "Map< int >", name := "a" }]
      line := "// TODO: Map<\tint\n> f(const Map<  int >& a = 1, void)" }, ?_⟩
    decide
  have hrefused : read Catalogue.standard "// TODO: QList<QRect> f(QList<QRect> a)" =
      .error (.unsupportedType "QList<QRect>" .unknown
        "// TODO: QList<QRect> f(QList<QRect> a)") := by
    decide
  obtain ⟨hnodup, -, hresult, -⟩ := (read_closed _ _).1 signature hread
  obtain ⟨parts, -, spelling, heq, -, hunknown⟩ := (read_closed _ _).2 _ hrefused rfl
  obtain ⟨rfl, -, -⟩ := Refusal.unsupportedType.inj heq
  exact ⟨⟨signature, hread, hresult, hnodup⟩, hrefused, parts, hunknown⟩

end Signature

end BindingGlue
