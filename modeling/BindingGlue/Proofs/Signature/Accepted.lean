import BindingGlue.Proofs.Signature.Declaration
import BindingGlue.Proofs.Signature.Reading
import BindingGlue.Proofs.Types.Catalogue

/-!
# Accepted signatures

What holds of every signature that is read from a line, under any catalogue: its result type is a
result type of the catalogue, and each of its arguments was read from a part of the line, with a
type that can be passed and a name of word characters. Whatever is generated may rely on it.
-/

namespace BindingGlue.Signature

open Text

variable {catalogue : Catalogue} {line text spelling name : String} {part : List Char}
  {parts : List (List Char)} {argument : Argument} {arguments : List Argument}
  {signature : Signature} {s : List Char}

/-! ### Arguments -/

/-- The name of an argument has word characters only. -/
theorem isWord_of_readArgument? (h : readArgument? s = some (spelling, name)) :
    ∀ c ∈ name.toList, isWord c := by
  obtain ⟨_, _, _, -, -, -, -, hword⟩ := readArgument?_sound h
  exact hword

/-- What is read from a part has a type of the catalogue's arguments, and a name. -/
theorem exists_of_readPart_eq_some (h : readPart catalogue line part = .ok (some argument)) :
    ∃ spelling, readArgument? (declarationOf part) = some (spelling, argument.name) ∧
      catalogue.argumentType? spelling = some argument.type ∧ argument.name ≠ "" := by
  simp only [readPart] at h
  split at h
  case isTrue => cases h
  case isFalse =>
    split at h
    case h_1 => cases h
    case h_2 spelling name hread =>
      split at h
      case h_1 => cases h
      case h_2 type htype =>
        split at h
        case isTrue => cases h
        case isFalse hname =>
          obtain rfl := Option.some.inj (Except.ok.inj h)
          exact ⟨spelling, hread, htype, by simpa using hname⟩

theorem PartsReadAs.exists_part {seen : List String}
    (h : PartsReadAs catalogue line seen parts arguments) (hargument : argument ∈ arguments) :
    ∃ part ∈ parts, readPart catalogue line part = .ok (some argument) := by
  obtain ⟨outcomes, hall, rfl, -⟩ := h
  induction hall with
  | nil => simp [List.reduceOption] at hargument
  | @cons part outcome parts outcomes hpart _ ih =>
    cases outcome with
    | none =>
      rw [List.reduceOption_cons_of_none] at hargument
      obtain ⟨other, hother, hread⟩ := ih hargument
      exact ⟨other, List.mem_cons_of_mem _ hother, hread⟩
    | some first =>
      rw [List.reduceOption_cons_of_some] at hargument
      rcases List.mem_cons.1 hargument with rfl | hargument
      · exact ⟨part, List.mem_cons_self, hpart⟩
      · obtain ⟨other, hother, hread⟩ := ih hargument
        exact ⟨other, List.mem_cons_of_mem _ hother, hread⟩

/-! ### Signatures -/

/-- The signature that a line with these parts is read as. -/
theorem read_eq_ok_iff_of_fits {parts : LineParts} (hfits : parts.Fits (trim text.toList)) :
    read catalogue text = .ok signature ↔
      signature.name = parts.name ∧
      catalogue.resultType? parts.resultType = some signature.resultType ∧
      PartsReadAs catalogue (String.ofList (trim text.toList)) [] (argumentParts parts.arguments)
        signature.arguments ∧
      signature.isVirtual = parts.isVirtual ∧
      signature.line = String.ofList (trim text.toList) := by
  rw [read_of_fits hfits, LineParts.outcome, ← readParts_eq_ok_iff]
  obtain ⟨name, resultType, arguments, isVirtual, line⟩ := signature
  cases htype : catalogue.resultType? parts.resultType with
  | none => simp
  | some found =>
    rcases hread : readParts catalogue _ [] (argumentParts parts.arguments) with refusal | others
    · simp [Except.map]
    · simp only [Except.map, Except.ok.injEq, Signature.mk.injEq, Option.some.injEq]
      constructor
      · rintro ⟨rfl, rfl, rfl, rfl, rfl⟩
        exact ⟨rfl, rfl, rfl, rfl, rfl⟩
      · rintro ⟨rfl, rfl, rfl, rfl, rfl⟩
        exact ⟨rfl, rfl, rfl, rfl, rfl⟩

/-- A line that is read fits the parts of its signature. -/
theorem exists_fits_of_read (h : read catalogue text = .ok signature) :
    ∃ parts : LineParts, parts.Fits (trim text.toList) ∧ signature.name = parts.name ∧
      catalogue.resultType? parts.resultType = some signature.resultType ∧
      PartsReadAs catalogue (String.ofList (trim text.toList)) [] (argumentParts parts.arguments)
        signature.arguments := by
  by_cases hfits : ∃ parts : LineParts, parts.Fits (trim text.toList)
  case neg =>
    rw [read_of_not_fits hfits] at h
    cases h
  case pos =>
    obtain ⟨parts, hfits⟩ := hfits
    obtain ⟨hname, htype, harguments, -⟩ := (read_eq_ok_iff_of_fits hfits).1 h
    exact ⟨parts, hfits, hname, htype, harguments⟩

/-- The result type of a signature is one of the catalogue. -/
theorem resultType_mem_of_read (h : read catalogue text = .ok signature) :
    signature.resultType ∈ catalogue.results := by
  obtain ⟨parts, -, -, htype, -⟩ := exists_fits_of_read h
  exact (Catalogue.resultType?_eq_some htype).1

/-- The name of a signature is one. -/
theorem isName_of_read (h : read catalogue text = .ok signature) :
    IsName signature.name.toList := by
  obtain ⟨parts, ⟨_, _, _, _, _, _, _, _, -, -, -, -, -, -, -, -, hname, -⟩, heq, -⟩ :=
    exists_fits_of_read h
  rw [heq]
  exact hname

/-- The arguments of a signature can be passed, and their names have word characters only. -/
theorem argument_of_read (h : read catalogue text = .ok signature)
    (hargument : argument ∈ signature.arguments) :
    argument.type ∈ catalogue.entries ∧ argument.type.isPassable ∧
      ∀ c ∈ argument.name.toList, isWord c := by
  obtain ⟨parts, -, -, -, hparts⟩ := exists_fits_of_read h
  obtain ⟨part, -, hpart⟩ := hparts.exists_part hargument
  obtain ⟨spelling, hread, htype, -⟩ := exists_of_readPart_eq_some hpart
  obtain ⟨hmem, hpassable, -⟩ := Catalogue.argumentType?_eq_some htype
  exact ⟨hmem, hpassable, isWord_of_readArgument? hread⟩

/-- No two arguments of a signature have one name. -/
theorem nodup_argumentNames_of_read (h : read catalogue text = .ok signature) :
    signature.argumentNames.Nodup := by
  obtain ⟨_, -, -, -, _, -, -, hnodup, -⟩ := exists_fits_of_read h
  exact hnodup

end BindingGlue.Signature
