import BindingGlue.Proofs.Signature.Arguments
import BindingGlue.Proofs.Signature.Declaration

/-!
# The grammar of arguments, decided

A declaration may fit the grammar of arguments in several ways: in `Xconst &y` the type is `Xconst`
or it is `X` with a `const` behind it, and in `const const &y` either of the two words may be the
qualifier. All ways agree on the name, which is the run of word characters at the end
(`ArgumentFits.name_eq`), and `readArgument?` reads the one with the longest type
(`readArgument?_eq_some_iff`).

The types of all ways are pieces that the longest one begins with
(`ArgumentFits.exists_readArgument?`). From one place on the reader takes the longest type there is,
and a shorter one is followed at once by the `const` that belongs to the longer. With the qualifier
and without it a declaration can only be read where both leave the word `const` as the type.
-/

namespace BindingGlue.Signature

open Text BindingGlue.Types

variable {s rest type name separator : List Char} {part : List Char}

/-! ### Separators -/

/-- Marks end the type before them, with blanks in front or without. -/
theorem endsType_append_of_isMark {blanks marks : List Char} (hblanks : IsBlanks blanks)
    (hmarks : ∀ c ∈ marks, isMark c) (hne : marks ≠ []) :
    EndsType (blanks ++ (marks ++ rest)) := by
  cases blanks with
  | cons b bs => exact endsType_cons_of_isBlank (hblanks b List.mem_cons_self)
  | nil =>
    cases marks with
    | nil => exact absurd rfl hne
    | cons c cs => exact endsType_cons_of_isMark (hmarks c List.mem_cons_self)

/-- A separator ends the type before it, but where a `const` stands right behind the type: then what
follows the `const` is a separator that does. -/
theorem IsArgumentSeparator.endsType_or (h : IsArgumentSeparator separator) (name : List Char) :
    EndsType (separator ++ name) ∨
      ∃ tail, separator = "const".toList ++ tail ∧ IsArgumentSeparator tail ∧
        EndsType (tail ++ name) := by
  rcases h with ⟨hblanks, hne⟩ | ⟨left, constant, marks, right, rfl, hleft, hconstant, hmarks, hne,
    hright⟩
  · cases separator with
    | nil => exact absurd rfl hne
    | cons b bs => exact .inl (endsType_cons_of_isBlank (hblanks b List.mem_cons_self))
  · rcases hconstant with rfl | ⟨blanks, rfl, hblanks⟩
    · refine .inl ?_
      rw [List.append_nil, List.append_assoc, List.append_assoc]
      exact endsType_append_of_isMark hleft hmarks hne
    · cases left with
      | cons b bs => exact .inl (endsType_cons_of_isBlank (hleft b List.mem_cons_self))
      | nil =>
        refine .inr ⟨blanks ++ [] ++ marks ++ right, by simp,
          .inr ⟨blanks, [], marks, right, rfl, hblanks, .inl rfl, hmarks, hne, hright⟩, ?_⟩
        rw [List.append_nil, List.append_assoc, List.append_assoc]
        exact endsType_append_of_isMark hblanks hmarks hne

/-- Behind the blanks that a separator begins with stands the name, a mark, or a `const` with a
separator of its own. -/
theorem IsArgumentSeparator.trimLeft_cases (h : IsArgumentSeparator separator)
    (hname : ∀ c ∈ name, isWord c) :
    trimLeft (separator ++ name) = name ∨
      (∃ mark rest, trimLeft (separator ++ name) = mark :: rest ∧ isMark mark) ∨
      ∃ tail, trimLeft (separator ++ name) = "const".toList ++ (tail ++ name) ∧
        IsArgumentSeparator tail ∧ EndsType (tail ++ name) := by
  rcases h with ⟨hblanks, -⟩ | ⟨left, constant, marks, right, rfl, hleft, hconstant, hmarks, hne,
    hright⟩
  · exact .inl (trimLeft_append_of_head? hblanks (head?_of_isWord hname))
  · rw [List.append_assoc, List.append_assoc, List.append_assoc]
    rcases hconstant with rfl | ⟨blanks, rfl, hblanks⟩
    · cases marks with
      | nil => exact absurd rfl hne
      | cons c cs =>
        have hc := hmarks c List.mem_cons_self
        refine .inr (.inl ⟨c, cs ++ (right ++ name), ?_, hc⟩)
        exact trimLeft_append_of_head? hleft (by simpa using isBlank_eq_false_of_isMark hc)
    · refine .inr (.inr ⟨blanks ++ [] ++ marks ++ right, ?_,
        .inr ⟨blanks, [], marks, right, rfl, hblanks, .inl rfl, hmarks, hne, hright⟩, ?_⟩)
      · rw [trimLeft_append_of_head? hleft]
        · simp
        · intro c hc
          obtain rfl : 'c' = c := by simpa using hc
          decide
      · rw [List.append_nil, List.append_assoc, List.append_assoc]
        exact endsType_append_of_isMark hblanks hmarks hne

/-! ### From the type on -/

theorem FitsTyped.isBlank_head? (h : FitsTyped type name s) :
    ∀ c ∈ s.head?, isBlank c = false := by
  obtain ⟨separator, rfl, htype, -, -⟩ := h
  obtain ⟨c, cs, rfl, hc⟩ := htype.exists_cons
  intro d hd
  obtain rfl : c = d := by simpa using hd
  exact isBlank_eq_false_of_isNameStart hc

/-- Whatever type fits, the longest one is taken, begins with it and fits with the same name. -/
theorem FitsTyped.exists_takeType? (h : FitsTyped type name s) :
    ∃ longest separator, takeType? s = some (longest, separator ++ name) ∧ type <+: longest ∧
      IsArgumentSeparator separator ∧ ∀ c ∈ name, isWord c := by
  obtain ⟨separator, rfl, htype, hseparator, hname⟩ := h
  rcases hseparator.endsType_or name with hends | ⟨tail, rfl, htail, hends⟩
  case inl =>
    exact ⟨type, separator, takeType?_append htype hends, List.prefix_refl _, hseparator,
      hname⟩
  case inr =>
    obtain ⟨c, cs, arguments, rfl, hc, hcs, harguments⟩ := htype
    rcases harguments with rfl | htemplate
    · -- the `const` goes on with the name of the type
      have hlonger : IsType (c :: cs ++ "const".toList) := by
        refine ⟨c, cs ++ "const".toList, [], by simp, hc, fun d hd ↦ ?_, .inl rfl⟩
        rcases List.mem_append.1 hd with hd | hd
        · exact hcs d hd
        · exact isTypeChar_of_isWord (isName_const.isWord_of_mem hd)
      refine ⟨c :: cs ++ "const".toList, tail, ?_, by simp, htail, hname⟩
      rw [← takeType?_append hlonger hends]
      simp
    · -- nothing goes on with a type behind its template arguments
      have hne : arguments ≠ [] := by
        obtain ⟨inner, rfl, -⟩ := htemplate
        simp
      exact ⟨_, _, takeType?_append_arguments hc hcs (.inr htemplate) (absurd · hne),
        List.prefix_refl _, hseparator, hname⟩

theorem FitsTyped.exists_readTyped? (h : FitsTyped type name s) :
    ∃ longest, readTyped? s = some (String.ofList longest, String.ofList name) ∧
      type <+: longest := by
  obtain ⟨longest, separator, htake, hlonger, hseparator, hname⟩ := h.exists_takeType?
  exact ⟨longest, readTyped?_of_takeType? htake hseparator hname, hlonger⟩

/-- Where a declaration reads both behind a qualifier and without one, the word `const` is its type
in both ways. -/
theorem FitsTyped.readTyped?_behind_const {blanks other otherName : List Char}
    (h : FitsTyped type name ("const".toList ++ (blanks ++ rest))) (hblanks : IsBlanks blanks)
    (hne : blanks ≠ []) (hrest : FitsTyped other otherName rest) :
    type <+: "const".toList ∧ readTyped? rest = some ("const", String.ofList name) := by
  obtain ⟨longest, separator, htake, hlonger, hseparator, hname⟩ := h.exists_takeType?
  have hword : takeType? ("const".toList ++ (blanks ++ rest)) =
      some ("const".toList, blanks ++ rest) :=
    takeType?_append isName_const.isType (endsType_append_of_isSeparator (.inl ⟨hblanks, hne⟩))
  obtain ⟨rfl, hleft⟩ := Prod.mk.inj (Option.some.inj (hword.symm.trans htake))
  have htrim : trimLeft (separator ++ name) = rest := by
    rw [← hleft, trimLeft_append_of_head? hblanks hrest.isBlank_head?]
  refine ⟨hlonger, ?_⟩
  rcases hseparator.trimLeft_cases hname with heq | ⟨mark, left, heq, hmark⟩ |
    ⟨tail, heq, htail, hends⟩
  · -- a name alone is no declaration
    obtain ⟨_, hread, -⟩ := hrest.exists_readTyped?
    rw [← htrim, heq, readTyped?_eq_none_of_isWord hname] at hread
    cases hread
  · -- no declaration begins with a mark
    obtain ⟨_, hdeclaration, htype, -⟩ := hrest
    obtain ⟨c, cs, rfl, hc⟩ := htype.exists_cons
    obtain rfl : mark = c := (List.cons.inj ((heq.symm.trans htrim).trans hdeclaration)).1
    rw [isMark_eq_false_of_isNameStart hc] at hmark
    cases hmark
  · rw [← htrim, heq, readTyped?_of_takeType? (takeType?_append isName_const.isType hends) htail
      hname, String.ofList_toList]

/-! ### The longest type -/

/-- Every way to read an argument has the name that is read, and a type that the one that is read
begins with. -/
theorem ArgumentFits.exists_readArgument? (h : ArgumentFits type name s) :
    ∃ longest, readArgument? s = some (String.ofList longest, String.ofList name) ∧
      type <+: longest := by
  rcases argumentFits_iff.1 h with hfits | ⟨blanks, rest, rfl, hblanks, hne, hfits⟩
  · cases hqualified : (skipQualifier? "const" s).bind readTyped? with
    | none =>
      obtain ⟨longest, hread, hlonger⟩ := hfits.exists_readTyped?
      exact ⟨longest, by rw [readArgument?, hqualified, Option.none_or, hread], hlonger⟩
    | some declaration =>
      obtain ⟨rest, hskip, hread⟩ := Option.bind_eq_some_iff.1 hqualified
      obtain ⟨blanks, rfl, hblanks, hne, -⟩ := skipQualifier?_eq_some_iff.1 hskip
      obtain ⟨hlonger, hconst⟩ :=
        hfits.readTyped?_behind_const hblanks hne (readTyped?_sound hread)
      refine ⟨"const".toList, ?_, hlonger⟩
      rw [readArgument?, hqualified, Option.some_or, ← hread, hconst, String.ofList_toList]
  · obtain ⟨longest, hread, hlonger⟩ := hfits.exists_readTyped?
    have hskip : skipQualifier? "const" ("const".toList ++ (blanks ++ rest)) = some rest :=
      skipQualifier?_eq_some_iff.2 ⟨blanks, rfl, hblanks, hne, hfits.isBlank_head?⟩
    exact ⟨longest, by rw [readArgument?, hskip, Option.bind_some, hread, Option.some_or], hlonger⟩

/-- All ways to read an argument have one name. -/
theorem ArgumentFits.name_eq {other otherName : List Char} (h : ArgumentFits type name s)
    (hother : ArgumentFits other otherName s) : name = otherName := by
  obtain ⟨_, hread, -⟩ := h.exists_readArgument?
  obtain ⟨_, hread', -⟩ := hother.exists_readArgument?
  have hname := (Prod.mk.inj (Option.some.inj (hread.symm.trans hread'))).2
  exact String.ofList_injective hname

/-- The argument reads as the type and the name, and in no way with a longer type. -/
def FitsLongest (type name : String) (argument : List Char) : Prop :=
  ArgumentFits type.toList name.toList argument ∧
    ∀ other otherName, ArgumentFits other otherName argument → other.length ≤ type.toList.length

theorem readArgument?_eq_some_iff {type name : String} :
    readArgument? s = some (type, name) ↔ FitsLongest type name s := by
  constructor
  · intro hread
    refine ⟨readArgument?_sound hread, fun other otherName hother ↦ ?_⟩
    obtain ⟨longest, hread', hlonger⟩ := hother.exists_readArgument?
    obtain ⟨rfl, -⟩ := Prod.mk.inj (Option.some.inj (hread.symm.trans hread'))
    rw [String.toList_ofList]
    exact hlonger.length_le
  · rintro ⟨hfits, hlongest⟩
    obtain ⟨longest, hread, hlonger⟩ := hfits.exists_readArgument?
    have hlength := hlongest _ _ (readArgument?_sound hread)
    rw [String.toList_ofList] at hlength
    rw [hread, ← hlonger.eq_of_length_le hlength, String.ofList_toList, String.ofList_toList]

theorem readArgument?_eq_none_iff :
    readArgument? s = none ↔ ¬ ∃ type name, ArgumentFits type name s := by
  constructor
  · rintro hread ⟨type, name, hfits⟩
    obtain ⟨_, hread', -⟩ := hfits.exists_readArgument?
    rw [hread] at hread'
    cases hread'
  · intro hfits
    cases hread : readArgument? s with
    | none => rfl
    | some declaration => exact absurd ⟨_, _, readArgument?_sound hread⟩ hfits

/-! ### The parts of an argument list -/

/-- What becomes of an argument that reads as the type and the name: its type is looked up, and
without a name it is left out. -/
def lookUp (catalogue : Catalogue) (line type name : String) : Except Refusal (Option Argument) :=
  match catalogue.argumentType? type with
  | none => .error (.unsupportedType type .unknown line)
  | some entry => .ok (if name.isEmpty then none else some { type := entry, name })

theorem lookUp_ne_grammarMismatch (catalogue : Catalogue) (line type name : String)
    (fault : GrammarFault) :
    lookUp catalogue line type name ≠ .error (.grammarMismatch fault line) := by
  rw [lookUp]
  split
  all_goals exact nofun

theorem readPart_of_void (catalogue : Catalogue) (line : String)
    (h : declarationOf part = "void".toList) : readPart catalogue line part = .ok none := by
  simp only [readPart, if_pos h]

theorem readPart_of_fitsLongest (catalogue : Catalogue) (line : String)
    (hvoid : declarationOf part ≠ "void".toList) {type name : String}
    (h : FitsLongest type name (declarationOf part)) :
    readPart catalogue line part = lookUp catalogue line type name := by
  simp only [readPart, if_neg hvoid, readArgument?_eq_some_iff.2 h]
  rfl

theorem readPart_of_not_fits (catalogue : Catalogue) (line : String)
    (hvoid : declarationOf part ≠ "void".toList)
    (h : ¬ ∃ type name, ArgumentFits type name (declarationOf part)) :
    readPart catalogue line part =
      .error (.grammarMismatch (argumentFault (declarationOf part)) line) := by
  simp only [readPart, if_neg hvoid, readArgument?_eq_none_iff.2 h]

/-- A part is refused as no argument exactly if there is no way to read it. -/
theorem readPart_eq_grammarMismatch_iff {catalogue : Catalogue} {line : String}
    {fault : GrammarFault} (hvoid : declarationOf part ≠ "void".toList) :
    readPart catalogue line part = .error (.grammarMismatch fault line) ↔
      (¬ ∃ type name, ArgumentFits type name (declarationOf part)) ∧
        fault = argumentFault (declarationOf part) := by
  by_cases hfits : ∃ type name, ArgumentFits type name (declarationOf part)
  case pos =>
    obtain ⟨type, name, hread⟩ := hfits
    obtain ⟨longest, hlongest, -⟩ := hread.exists_readArgument?
    rw [readPart_of_fitsLongest catalogue line hvoid (readArgument?_eq_some_iff.1 hlongest)]
    exact ⟨fun h ↦ absurd h (lookUp_ne_grammarMismatch _ _ _ _ _),
      fun h ↦ absurd ⟨type, name, hread⟩ h.1⟩
  case neg =>
    rw [readPart_of_not_fits catalogue line hvoid hfits, Except.error.injEq,
      Refusal.grammarMismatch.injEq]
    exact ⟨fun h ↦ ⟨hfits, h.1.symm⟩, fun h ↦ ⟨h.2.symm, rfl⟩⟩

theorem message_argumentFault (declaration : List Char) :
    (argumentFault declaration).message =
      if declaration ≠ [] ∧ ' ' ∉ declaration then
        "argument '" ++ String.ofList declaration ++ "' has no name"
      else "malformed argument '" ++ String.ofList declaration ++ "'" := by
  have hcondition : (!declaration.isEmpty && !declaration.contains ' ') = true ↔
      declaration ≠ [] ∧ ' ' ∉ declaration := by
    simp
  simp only [argumentFault, hcondition]
  split
  · rfl
  · rfl

/-- **The parts of an argument list, decided**: a lone `void` is left out. From any other part the
longest type with its name is read, and looked up. All ways to read the part have that name, and it
is empty only behind marks. A part that reads in no way is refused, with a message that tells
whether it is a single word. -/
theorem readPart_exact_grammar (catalogue : Catalogue) (line : String) (part : List Char) :
    (declarationOf part = "void".toList → readPart catalogue line part = .ok none) ∧
    (declarationOf part ≠ "void".toList →
      (∀ type name : String, readArgument? (declarationOf part) = some (type, name) ↔
        FitsLongest type name (declarationOf part)) ∧
      (∀ type name : String, FitsLongest type name (declarationOf part) →
        readPart catalogue line part = lookUp catalogue line type name) ∧
      (∀ type name other otherName, ArgumentFits type name (declarationOf part) →
        ArgumentFits other otherName (declarationOf part) → name = otherName) ∧
      (∀ constant type separator name,
        declarationOf part = constant ++ type ++ separator ++ name → IsBlanks separator →
        separator ≠ [] → name ≠ []) ∧
      ((∃ fault, readPart catalogue line part = .error (.grammarMismatch fault line)) ↔
        ¬ ∃ type name, ArgumentFits type name (declarationOf part)) ∧
      ∀ fault, readPart catalogue line part = .error (.grammarMismatch fault line) →
        fault.message =
          if declarationOf part ≠ [] ∧ ' ' ∉ declarationOf part then
            "argument '" ++ String.ofList (declarationOf part) ++ "' has no name"
          else "malformed argument '" ++ String.ofList (declarationOf part) ++ "'") := by
  refine ⟨readPart_of_void catalogue line, fun hvoid ↦ ⟨fun _ _ ↦ readArgument?_eq_some_iff,
    fun _ _ ↦ readPart_of_fitsLongest catalogue line hvoid, fun _ _ _ _ ↦ ArgumentFits.name_eq,
    ?_, ?_, fun fault hrefused ↦ ?_⟩⟩
  · rintro constant type separator name heq hblanks hne rfl
    obtain ⟨init, c, rfl⟩ := (List.eq_nil_or_concat' separator).resolve_left hne
    have hlast : trim (part.takeWhile (· != '=')) = (constant ++ type ++ init) ++ [c] := by
      rw [← declarationOf, heq]
      simp
    have hblank := isBlank_eq_false_of_trim_eq_append hlast
    rw [hblanks c (by simp)] at hblank
    cases hblank
  · constructor
    · rintro ⟨fault, hrefused⟩
      exact ((readPart_eq_grammarMismatch_iff hvoid).1 hrefused).1
    · intro hfits
      exact ⟨_, (readPart_eq_grammarMismatch_iff hvoid).2 ⟨hfits, rfl⟩⟩
  · rw [((readPart_eq_grammarMismatch_iff hvoid).1 hrefused).2]
    exact message_argumentFault _

/-- The `const` behind a type belongs to the type where no blank keeps them apart. -/
theorem readPart_exact_grammar_constBehind :
    declarationOf " Xconst &y = z".toList ≠ "void".toList ∧
      FitsLongest "Xconst" "y" (declarationOf " Xconst &y = z".toList) := by
  have hvoid : declarationOf " Xconst &y = z".toList ≠ "void".toList := by decide
  have hread : readArgument? (declarationOf " Xconst &y = z".toList) = some ("Xconst", "y") := by
    decide
  exact ⟨hvoid, (((readPart_exact_grammar .standard "" _).2 hvoid).1 _ _).1 hread⟩

end BindingGlue.Signature
