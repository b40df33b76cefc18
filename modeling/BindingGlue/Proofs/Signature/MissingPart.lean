import BindingGlue.Proofs.Signature.ClosedVocabulary
import BindingGlue.Proofs.Signature.DeclaredParts
import BindingGlue.Proofs.Signature.Printed

/-!
# Lines that lack a part

A line without a result type, and an argument without a name. What becomes of them is decided by
how the reader treats the word `const`, and in front of a method also `virtual`: where nothing can
be read behind such a word, or in front of it, it is no longer taken as a qualifier but as the part
that is missing. A `const` in front becomes the type, with the word behind it as the name, and a
`const` behind the type of an argument becomes the name of the argument
(`readArgument?_of_isUnnamed`, `LacksResult.fits`). Neither word is a type of the standard
vocabulary, but any word is a name.

An argument that is put in among others reads as it would alone, and then no other may have its name
(`PartsReadAs.readParts_insert`).
-/

namespace BindingGlue.Signature

open Text BindingGlue.Types

variable {catalogue : Catalogue} {line text name : String} {seen : List String}
  {arguments others : List Argument} {argument : Argument} {s type part : List Char}
  {parts before after : List (List Char)} {isVirtual isConst isConstBehind : Bool}

/-! ### A type without a name -/

/-- A qualifier behind a type. -/
def IsBehind (word : String) (isThere : Bool) (s : List Char) : Prop :=
  if isThere then ∃ blanks, s = blanks ++ word.toList ∧ IsBlanks blanks ∧ blanks ≠ [] else s = []

/-- A declaration that is a type without a name, with a `const` in front of it or behind it. -/
def IsUnnamed (type : List Char) (isConst isConstBehind : Bool) (declaration : List Char) : Prop :=
  ∃ constant behind, declaration = constant ++ type ++ behind ∧
    IsQualifier "const" isConst constant ∧ IsBehind "const" isConstBehind behind

/-- Behind a `const` that has to be the type, a word is the name, and anything else is none. -/
theorem readTyped?_const {blanks : List Char} (htype : IsType type)
    (hchars : ∀ c ∈ type, isTypeChar c) (hblanks : IsBlanks blanks) (hne : blanks ≠ []) :
    readTyped? ("const".toList ++ (blanks ++ type)) =
      if type.all isWord then some ("const", String.ofList type) else none := by
  have htake : takeType? ("const".toList ++ (blanks ++ type)) =
      some ("const".toList, blanks ++ type) :=
    takeType?_append isName_const.isType (endsType_append_of_isSeparator (.inl ⟨hblanks, hne⟩))
  split
  case isTrue hword =>
    rw [readTyped?_of_takeType? htake (.inl ⟨hblanks, hne⟩) (List.all_eq_true.1 hword),
      String.ofList_toList]
  case isFalse hword =>
    have hmarks : ∀ c ∈ blanks ++ type, isMark c = false :=
      List.forall_mem_append.2 ⟨fun c hc ↦ isMark_eq_false_of_isBlank (hblanks c hc),
        fun c hc ↦ isMark_eq_false_of_isTypeChar (hchars c hc)⟩
    cases blanks with
    | nil => exact absurd rfl hne
    | cons b blanks =>
      have htrim : trimLeft (blanks ++ type) = type :=
        trimLeft_append_of_head? (fun c hc ↦ hblanks c (List.mem_cons_of_mem b hc)) htype.head?
      rw [readTyped?, htake]
      show ((skipMarks? (b :: blanks ++ type)).bind _).or (if isBlank b then
        if (trimLeft (blanks ++ type)).all isWord then
          some (String.ofList "const".toList, String.ofList (trimLeft (blanks ++ type))) else none
        else none) = _
      rw [skipMarks?_eq_none hmarks, Option.bind_none, Option.none_or,
        if_pos (hblanks b List.mem_cons_self), htrim, if_neg hword]

/-- A `const` behind a type without a name is the name, and one in front is the type if the type is
a word and so can be the name. -/
theorem readArgument?_of_isUnnamed (htype : IsType type) (hchars : ∀ c ∈ type, isTypeChar c)
    (h : IsUnnamed type isConst isConstBehind s) :
    readArgument? s =
      if isConstBehind then some (String.ofList type, "const")
      else if isConst ∧ type.all isWord then some ("const", String.ofList type) else none := by
  obtain ⟨constant, behind, rfl, hconst, hbehind⟩ := h
  have hskip : ∀ blanks rest : List Char, IsBlanks blanks → blanks ≠ [] →
      skipQualifier? "const" ("const".toList ++ blanks ++ type ++ rest) = some (type ++ rest) := by
    intro blanks rest hblanks hne
    obtain ⟨c, cs, rfl, hc⟩ := htype.exists_cons
    exact skipQualifier?_eq_some_iff.2 ⟨blanks, by simp, hblanks, hne,
      by simpa using isBlank_eq_false_of_isNameStart hc⟩
  cases isConstBehind with
  | true =>
    obtain ⟨blanks, rfl, hblanks, hne⟩ := hbehind
    have hname : ∀ c ∈ "const".toList, isWord c := fun c hc ↦ isName_const.isWord_of_mem hc
    rw [if_pos rfl]
    cases isConst with
    | false =>
      obtain rfl : constant = [] := hconst
      rw [List.nil_append, readArgument?_append_blanks htype hblanks hne hname,
        String.ofList_toList]
    | true =>
      obtain ⟨front, rfl, hfront, hfrontNe⟩ := hconst
      have hends : EndsType (blanks ++ "const".toList) :=
        endsType_append_of_isSeparator (.inl ⟨hblanks, hne⟩)
      rw [readArgument?, hskip front _ hfront hfrontNe, Option.bind_some,
        readTyped?_of_takeType? (takeType?_append htype hends) (.inl ⟨hblanks, hne⟩) hname,
        Option.some_or, String.ofList_toList]
  | false =>
    obtain rfl : behind = [] := hbehind
    rw [if_neg Bool.false_ne_true, List.append_nil]
    cases isConst with
    | false =>
      obtain rfl : constant = [] := hconst
      -- where the type is `const`, nothing would be left behind a qualifier
      have hfirst : (skipQualifier? "const" type).bind readTyped? = none := by
        refine Option.bind_eq_none_iff.2 fun left hskip ↦ ?_
        rw [← List.append_nil type] at hskip
        obtain ⟨-, rfl⟩ := htype.eq_of_skipQualifier? isName_const (by simp [EndsType]) hskip
        rfl
      rw [List.nil_append, readArgument?, hfirst, Option.none_or, htype.readTyped?_eq_none]
      simp
    | true =>
      obtain ⟨front, rfl, hfront, hfrontNe⟩ := hconst
      have hqualified := hskip front [] hfront hfrontNe
      rw [List.append_nil, List.append_nil] at hqualified
      rw [readArgument?, hqualified, Option.bind_some, htype.readTyped?_eq_none, Option.none_or,
        List.append_assoc, readTyped?_const htype hchars hfront hfrontNe]
      simp

/-- A type without a name is no lone `void`. -/
theorem IsUnnamed.ne_void (h : IsUnnamed type isConst isConstBehind s)
    (hvoid : type ≠ "void".toList) : s ≠ "void".toList := by
  obtain ⟨constant, behind, rfl, hconst, hbehind⟩ := h
  intro heq
  cases isConstBehind with
  | true =>
    obtain ⟨blanks, rfl, hblanks, hne⟩ := hbehind
    obtain ⟨b, hb⟩ := List.exists_mem_of_ne_nil _ hne
    have hmem : b ∈ "void".toList := by
      rw [← heq]
      simp [hb]
    have hword : ∀ c ∈ "void".toList, !isBlank c := List.all_eq_true.1 (by decide)
    have hblank := hword b hmem
    rw [hblanks b hb] at hblank
    cases hblank
  | false =>
    obtain rfl : behind = [] := hbehind
    cases isConst with
    | true =>
      obtain ⟨blanks, rfl, -, -⟩ := hconst
      exact absurd (List.cons.inj heq).1 (by decide)
    | false =>
      obtain rfl : constant = [] := hconst
      exact hvoid (by simpa using heq)

/-- What becomes of a type without a name, where `const` is no type. -/
theorem readPart_of_isUnnamed (line : String) {spelling : String} {entry : TypeEntry}
    (htype : IsType spelling.toList) (hchars : ∀ c ∈ spelling.toList, isTypeChar c)
    (hvoid : spelling ≠ "void") (hentry : catalogue.argumentType? spelling = some entry)
    (hconst : catalogue.argumentType? "const" = none)
    (h : IsUnnamed spelling.toList isConst isConstBehind (declarationOf part)) :
    readPart catalogue line part =
      if isConstBehind then .ok (some { type := entry, name := "const" })
      else if isConst ∧ spelling.toList.all isWord then
        .error (.unsupportedType "const" .unknown line)
      else .error (.grammarMismatch (argumentFault (declarationOf part)) line) := by
  have hnovoid := h.ne_void fun heq ↦ hvoid (String.toList_injective heq)
  have hread := readArgument?_of_isUnnamed htype hchars h
  rw [String.ofList_toList] at hread
  rw [readPart]
  simp only [if_neg hnovoid, hread]
  by_cases hbehind : isConstBehind
  case pos =>
    simp only [if_pos hbehind, hentry]
    rfl
  case neg =>
    by_cases hword : isConst ∧ spelling.toList.all isWord
    case pos => simp only [if_neg hbehind, if_pos hword, hconst]
    case neg => simp only [if_neg hbehind, if_neg hword]

/-! ### A line with an argument without a name -/

/-- A line that reads as a signature but for one argument, which is a type without a name. -/
structure UnnamedAmong (catalogue : Catalogue) (line : List Char) where
  /-- The parts of the line. -/
  parts : LineParts
  /-- The result type. -/
  resultType : TypeEntry
  /-- What stands in front of the argument, cut at the commas. -/
  before : List (List Char)
  /-- The part of the list with the argument. -/
  part : List Char
  /-- What stands behind the argument, cut at the commas. -/
  after : List (List Char)
  /-- The other arguments. -/
  others : List Argument
  /-- The type of the argument. -/
  type : TypeEntry
  /-- Whether a `const` stands in front of the type. -/
  isConst : Bool
  /-- Whether a `const` stands behind the type. -/
  isConstBehind : Bool
  fits : parts.Fits line
  resultType?_eq : catalogue.resultType? parts.resultType = some resultType
  splitOn_eq : parts.arguments.toList.splitOn ',' = before ++ part :: after
  partsReadAs : PartsReadAs catalogue (String.ofList line) [] (before ++ after) others
  type_mem : type ∈ catalogue.arguments
  isUnnamed : IsUnnamed type.name.toList isConst isConstBehind (declarationOf part)

/-- The line is read as its parts are. -/
theorem UnnamedAmong.read_eq (place : UnnamedAmong catalogue (trim text.toList))
    (htype : IsType place.type.name.toList) :
    read catalogue text =
      (readParts catalogue (String.ofList (trim text.toList)) []
        (place.before ++ place.part :: place.after)).map fun arguments ↦
          { name := place.parts.name, resultType := place.resultType, arguments,
            isVirtual := place.parts.isVirtual, line := String.ofList (trim text.toList) } := by
  have hblank : trim place.parts.arguments.toList ≠ [] := by
    obtain ⟨c, cs, hcons, hc⟩ := htype.exists_cons
    obtain ⟨constant, behind, hpart, -, -⟩ := place.isUnnamed
    have hmem : c ∈ declarationOf place.part := by
      rw [hpart, hcons]
      simp
    have hpart : place.part ∈ place.parts.arguments.toList.splitOn ',' := by
      rw [place.splitOn_eq]
      simp
    refine List.ne_nil_of_mem (mem_trim ?_ (isBlank_eq_false_of_isNameStart hc))
    exact ((declarationOf_isInfix _).trans (isInfix_of_mem_splitOn hpart)).subset hmem
  rw [read_of_fits place.fits, LineParts.outcome, readParts_argumentParts _ _ hblank,
    place.splitOn_eq]
  simp only [place.resultType?_eq]

/-! ### A line without a result type -/

/-- A line with a method's name and its argument list, but without a result type. -/
def LacksResult (isVirtual isConst : Bool) (name arguments : String) (line : List Char) : Prop :=
  ∃ blanks₁ blanks₂ marked constant blanks₃ rest,
    line = "//".toList ++ blanks₁ ++ "TODO:".toList ++ blanks₂ ++ marked ++ constant ++
      name.toList ++ blanks₃ ++ '(' :: arguments.toList ++ ')' :: rest ∧
    IsBlanks blanks₁ ∧ IsBlanks blanks₂ ∧ IsBlanks blanks₃ ∧
    IsQualifier "virtual" isVirtual marked ∧ IsQualifier "const" isConst constant ∧
    IsName name.toList ∧ ∀ c ∈ arguments.toList, isArgumentChar c

/-- The qualifier next to the name is read as the result type. -/
theorem LacksResult.fits {name arguments : String}
    (h : LacksResult isVirtual isConst name arguments s) (hqualified : isVirtual ∨ isConst) :
    LineParts.Fits { isVirtual := isVirtual && isConst,
                     resultType := if isConst then "const" else "virtual", name, arguments } s := by
  obtain ⟨blanks₁, blanks₂, marked, constant, blanks₃, rest, rfl, h₁, h₂, h₃, hvirtual, hconst,
    hname, harguments⟩ := h
  cases isConst with
  | true =>
    obtain ⟨separator, rfl, hseparator, hne⟩ := hconst
    refine ⟨blanks₁, blanks₂, marked, [], separator, blanks₃, rest, false, by simp, h₁, h₂, h₃,
      by simpa using hvirtual, rfl, isName_const.isType, .inl ⟨hseparator, hne⟩, hname, harguments⟩
  | false =>
    obtain rfl : constant = [] := hconst
    obtain rfl : isVirtual = true := by simpa using hqualified
    obtain ⟨separator, rfl, hseparator, hne⟩ := hvirtual
    exact ⟨blanks₁, blanks₂, [], [], separator, blanks₃, rest, false, by simp, h₁, h₂, h₃, rfl, rfl,
      isName_virtual.isType, .inl ⟨hseparator, hne⟩, hname, harguments⟩

/-- Without a qualifier there is nothing to read as the result type. -/
theorem LacksResult.readLine?_eq_none {name arguments : String}
    (h : LacksResult false false name arguments s) : readLine? s = none := by
  obtain ⟨blanks₁, blanks₂, marked, constant, blanks₃, rest, rfl, h₁, h₂, h₃, hvirtual, hconst,
    hname, -⟩ := h
  obtain rfl : marked = [] := hvirtual
  obtain rfl : constant = [] := hconst
  obtain ⟨c, cs, hcons, hc⟩ := hname.exists_cons
  have hfollows : FollowsType (name.toList ++ (blanks₃ ++ '(' :: (arguments.toList ++
      ')' :: rest))) :=
    .inr ⟨_, _, _, rfl, hname, h₃⟩
  have hhead : ∀ d ∈ (name.toList ++ (blanks₃ ++ '(' :: (arguments.toList ++ ')' :: rest))).head?,
      isBlank d = false := by
    simpa [hcons] using isBlank_eq_false_of_isNameStart hc
  have hread := readLine?_append h₁ h₂ hhead
  rw [readVirtual?_eq_none_of_followsType hfollows] at hread
  simpa using hread

/-! ### The standard vocabulary -/

/-- The argument types of the standard vocabulary are names without template arguments, and stand
for themselves. -/
theorem standard_arguments : ∀ type ∈ Catalogue.standard.arguments,
    Catalogue.standard.argumentType? type.name = some type ∧
      type.name.toList.all isTypeChar ∧ type.name ≠ "void" := by
  decide

/-- The qualifiers are no types of the standard vocabulary. -/
theorem standard_qualifiers : ∀ word ∈ ["const", "virtual"],
    Catalogue.standard.resultType? word = none ∧ Catalogue.standard.argumentType? word = none := by
  decide

/-- **Lines that lack a part**, under the standard vocabulary. An argument without a name is refused
for its grammar, unless a `const` takes the place of the missing part: behind the type it is read as
the name, so that the argument is accepted where no other has that name, and in front of a type that
is a single word it is refused as a type that there is not. A line without a result type is refused
for its shape, unless a qualifier is refused as its result type. -/
theorem read_of_missingPart (text : String) :
    (∀ place : UnnamedAmong Catalogue.standard (trim text.toList),
      (place.isConstBehind = false →
        read Catalogue.standard text = .error
          (if place.isConst ∧ place.type.name.toList.all isWord then
            .unsupportedType "const" .unknown (String.ofList (trim text.toList))
          else .grammarMismatch (argumentFault (declarationOf place.part))
            (String.ofList (trim text.toList)))) ∧
      (place.isConstBehind = true → "const" ∈ place.others.map (·.name) →
        read Catalogue.standard text = .error (.grammarMismatch (.duplicateArgument "const")
          (String.ofList (trim text.toList)))) ∧
      (place.isConstBehind = true → "const" ∉ place.others.map (·.name) →
        ∃ left right, place.others = left ++ right ∧
          PartsReadAs Catalogue.standard (String.ofList (trim text.toList)) [] place.before left ∧
          read Catalogue.standard text = .ok {
            name := place.parts.name
            resultType := place.resultType
            arguments := left ++ { type := place.type, name := "const" } :: right
            isVirtual := place.parts.isVirtual
            line := String.ofList (trim text.toList) })) ∧
    ∀ (isVirtual isConst : Bool) (name arguments : String),
      LacksResult isVirtual isConst name arguments (trim text.toList) →
      read Catalogue.standard text = .error
        (if isConst then .unsupportedType "const" .unknown (String.ofList (trim text.toList))
        else if isVirtual then
          .unsupportedType "virtual" .unknown (String.ofList (trim text.toList))
        else .grammarMismatch .shape (String.ofList (trim text.toList))) := by
  refine ⟨fun place ↦ ?_, fun isVirtual isConst name arguments h ↦ ?_⟩
  · obtain ⟨hentry, hchars, hvoid⟩ := standard_arguments _ place.type_mem
    have hmem : place.type ∈ Catalogue.standard.results :=
      List.mem_cons_of_mem _ (List.mem_of_mem_filter place.type_mem)
    have htype : IsType place.type.name.toList :=
      (takeType?_sound (standard_names _ hmem).1).2
    have hpart := readPart_of_isUnnamed (String.ofList (trim text.toList)) htype
      (List.all_eq_true.1 hchars) hvoid hentry (standard_qualifiers "const" (by simp)).2
      place.isUnnamed
    rw [place.read_eq htype]
    refine ⟨fun hbehind ↦ ?_, fun hbehind hname ↦ ?_, fun hbehind hname ↦ ?_⟩
    · rw [if_neg (by simp [hbehind]), ← apply_ite Except.error] at hpart
      rw [place.partsReadAs.readParts_insert_error hpart]
      rfl
    · rw [if_pos hbehind] at hpart
      rw [(place.partsReadAs.readParts_insert hpart).2 hname]
      rfl
    · rw [if_pos hbehind] at hpart
      obtain ⟨left, right, hothers, hleft, hread⟩ :=
        (place.partsReadAs.readParts_insert hpart).1 hname
      refine ⟨left, right, hothers, hleft, ?_⟩
      rw [hread]
      rfl
  · by_cases hqualified : isVirtual ∨ isConst
    case neg =>
      obtain ⟨rfl, rfl⟩ : isVirtual = false ∧ isConst = false := by simpa using hqualified
      exact read_of_not_fits (readLine?_eq_none_iff.1 h.readLine?_eq_none)
    case pos =>
      rw [read_of_fits (h.fits hqualified), LineParts.outcome]
      cases isConst with
      | true =>
        rw [if_pos rfl]
        simp only [if_pos, (standard_qualifiers "const" (by simp)).1]
      | false =>
        obtain rfl : isVirtual = true := by simpa using hqualified
        simp only [if_neg Bool.false_ne_true, if_pos, (standard_qualifiers "virtual" (by simp)).1]

/-- A line whose only argument is a type with a `const` behind it. -/
def constBehind : UnnamedAmong Catalogue.standard (trim "// TODO: void f(int const)".toList) where
  parts := { isVirtual := false, resultType := "void", name := "f", arguments := "int const" }
  resultType := Vocabulary.void
  before := []
  part := "int const".toList
  after := []
  others := []
  type := Vocabulary.signed "int"
  isConst := false
  isConstBehind := true
  fits := readLine?_eq_some_iff.1 (by decide)
  resultType?_eq := by decide
  splitOn_eq := by decide
  partsReadAs := partsReadAs_nil
  type_mem := by decide
  isUnnamed := by
    have hdeclaration : declarationOf "int const".toList = [] ++ "int".toList ++ " const".toList :=
      by decide
    exact ⟨[], " const".toList, hdeclaration, rfl, [' '], rfl, isBlanks_space, by simp⟩

/-- A `const` in front of a method without a result type. -/
theorem lacksResult_const :
    LacksResult false true "add" "int a" (trim "// TODO: const add(int a)".toList) := by
  have hline : trim "// TODO: const add(int a)".toList = "//".toList ++ [' '] ++ "TODO:".toList ++
      [' '] ++ [] ++ "const ".toList ++ "add".toList ++ [] ++ '(' :: "int a".toList ++ [')'] := by
    decide
  exact ⟨[' '], [' '], [], "const ".toList, [], [], hline, isBlanks_space, isBlanks_space, nofun,
    rfl, ⟨[' '], rfl, isBlanks_space, by simp⟩,
    ⟨'a', ['d', 'd'], rfl, by decide, List.all_eq_true.1 (by decide)⟩,
    List.all_eq_true.1 (by decide)⟩

/-- The `const` behind a type is the name, and the one in front of a method its result type. -/
theorem read_of_missingPart_const :
    read Catalogue.standard "// TODO: void f(int const)" = .ok {
      name := "f"
      resultType := Vocabulary.void
      arguments := [{ type := Vocabulary.signed "int", name := "const" }]
      line := "// TODO: void f(int const)" } ∧
    read Catalogue.standard "// TODO: const add(int a)" =
      .error (.unsupportedType "const" .unknown "// TODO: const add(int a)") := by
  have hline : ∀ line ∈ ["// TODO: void f(int const)", "// TODO: const add(int a)"],
      String.ofList (trim line.toList) = line := by
    decide
  constructor
  · obtain ⟨left, right, hothers, -, hread⟩ :=
      ((read_of_missingPart "// TODO: void f(int const)").1 constBehind).2.2 rfl List.not_mem_nil
    obtain ⟨rfl, rfl⟩ := List.append_eq_nil_iff.1 hothers.symm
    rwa [hline _ (by simp)] at hread
  · have hread := (read_of_missingPart "// TODO: const add(int a)").2 _ _ _ _ lacksResult_const
    rwa [hline _ (by simp)] at hread

/-- So a missing part is not always refused for the grammar. -/
theorem missingPart_accepted_constBehind :
    ¬ ∀ text : String,
      (∀ _ : UnnamedAmong Catalogue.standard (trim text.toList), ∃ fault,
        read Catalogue.standard text =
          .error (.grammarMismatch fault (String.ofList (trim text.toList)))) ∧
      ∀ (isVirtual isConst : Bool) (name arguments : String),
        name ≠ "virtual" → name ≠ "const" →
        LacksResult isVirtual isConst name arguments (trim text.toList) → ∃ fault,
          read Catalogue.standard text =
            .error (.grammarMismatch fault (String.ofList (trim text.toList))) := by
  intro h
  obtain ⟨fault, hrefused⟩ := (h "// TODO: void f(int const)").1 constBehind
  have haccepted : (read Catalogue.standard "// TODO: void f(int const)").toBool = true := by
    decide
  rw [hrefused] at haccepted
  cases haccepted

end BindingGlue.Signature
