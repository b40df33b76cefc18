import BindingGlue.Proofs.Signature.Shape

/-!
# The grammar of lines, decided

`readLine?` takes a line apart exactly as the grammar does: `readLine?_eq_some_iff`. Since the
reader gives one answer, a line fits at most one choice of parts (`LineParts.Fits.unique`).

The reader tries a word in front as a qualifier first and comes back to it as the type only where
nothing else can be read. That this never hides a reading rests on one fact: where the word is the
type of a declaration, what follows the word is a mark or the name of the method with its
parenthesis (`FollowsType`), and neither of the two can be read as a declaration of its own.
-/

namespace BindingGlue.Signature

open Text BindingGlue.Types

variable {parts : LineParts} {s rest : List Char} {word : String} {isVirtual : Bool}

/-! ### Declarations -/

/-- A text that reads as the parts from the result type on. -/
def LineParts.FitsDeclaration (parts : LineParts) (s : List Char) : Prop :=
  ∃ separator blanks rest,
    s = parts.resultType.toList ++ (separator ++ (parts.name.toList ++
      (blanks ++ '(' :: (parts.arguments.toList ++ ')' :: rest)))) ∧
    IsType parts.resultType.toList ∧ IsSeparator separator ∧ IsName parts.name.toList ∧
    IsBlanks blanks ∧ ∀ c ∈ parts.arguments.toList, isArgumentChar c

theorem isBlank_eq_false_of_fitsDeclaration (h : parts.FitsDeclaration s) :
    ∀ c ∈ s.head?, isBlank c = false := by
  obtain ⟨separator, blanks, rest, rfl, htype, -⟩ := h
  obtain ⟨c, cs, heq, hc⟩ := htype.exists_cons
  intro d hd
  obtain rfl : c = d := by simpa [heq] using hd
  exact isBlank_eq_false_of_isNameStart hc

/-- The parenthesis of an argument list ends the type or the name in front of it, with blanks or
without. -/
private theorem endsType_before_arguments {blanks : List Char} (h : IsBlanks blanks) :
    EndsType (blanks ++ '(' :: rest) := by
  cases blanks with
  | nil =>
    intro c hc
    obtain rfl : '(' = c := by simpa using hc
    decide
  | cons b bs => exact endsType_cons_of_isBlank (h b (by simp))

private theorem isWord_eq_false_before_arguments {blanks : List Char} (h : IsBlanks blanks) :
    ∀ c ∈ (blanks ++ '(' :: rest).head?, isWord c = false := by
  intro c hc
  have hends := (endsType_before_arguments h c hc).1
  simp only [isTypeChar, Bool.or_eq_false_iff] at hends
  exact hends.1

private theorem trimLeft_before_arguments {blanks : List Char} (h : IsBlanks blanks) :
    trimLeft (blanks ++ '(' :: rest) = '(' :: rest := by
  refine trimLeft_append_of_head? h fun c hc ↦ ?_
  obtain rfl : '(' = c := by simpa using hc
  decide

theorem readDeclaration?_sound (h : readDeclaration? isVirtual s = some parts) :
    parts.isVirtual = isVirtual ∧ parts.FitsDeclaration s := by
  simp only [readDeclaration?, Option.bind_eq_bind, Option.pure_def, Option.bind_eq_some_iff,
    Option.some.injEq, Prod.exists] at h
  obtain ⟨type, s₁, htype, s₂, hseparator, name, s₃, hname, s₄, hopen, s₅, hclose, rfl⟩ := h
  obtain ⟨rfl, hIsType⟩ := takeType?_sound htype
  obtain ⟨separator, rfl, hIsSeparator⟩ := skipSeparator?_sound hseparator
  obtain ⟨rfl, hIsName⟩ := takeName?_sound hname
  obtain ⟨blanks, hblanks, hs₃⟩ := exists_append_trimLeft s₃
  have hs₄ : s₄ = s₄.takeWhile isArgumentChar ++ ')' :: s₅ := by
    have hdrop : s₄.dropWhile isArgumentChar = ')' :: s₅ := skipWord?_eq_some_iff.1 hclose
    rw [← hdrop, List.takeWhile_append_dropWhile]
  refine ⟨rfl, separator, blanks, s₅, ?_, by simpa using hIsType, hIsSeparator,
    by simpa using hIsName, hblanks, ?_⟩
  · have hopen' : trimLeft s₃ = '(' :: s₄ := skipWord?_eq_some_iff.1 hopen
    simp only [String.toList_ofList]
    rw [← hs₄, ← hopen', ← hs₃]
  · intro c hc
    rw [String.toList_ofList] at hc
    exact List.mem_takeWhile_imp hc

theorem readDeclaration?_of_fitsDeclaration (h : parts.FitsDeclaration s) :
    readDeclaration? parts.isVirtual s = some parts := by
  obtain ⟨separator, blanks, rest, rfl, htype, hseparator, hname, hblanks, harguments⟩ := h
  obtain ⟨c, cs, heq, hc⟩ := hname.exists_cons
  have htake : takeType? (parts.resultType.toList ++ (separator ++ (parts.name.toList ++
      (blanks ++ '(' :: (parts.arguments.toList ++ ')' :: rest))))) =
      some (parts.resultType.toList, separator ++ (parts.name.toList ++ (blanks ++ '(' ::
      (parts.arguments.toList ++ ')' :: rest)))) :=
    takeType?_append htype (endsType_append_of_isSeparator hseparator)
  have hskip : skipSeparator? (separator ++ (parts.name.toList ++ (blanks ++ '(' ::
      (parts.arguments.toList ++ ')' :: rest)))) = some (parts.name.toList ++ (blanks ++ '(' ::
      (parts.arguments.toList ++ ')' :: rest))) := by
    rw [heq, List.cons_append]
    exact skipSeparator?_append hseparator hc
  have hnamed : takeName? (parts.name.toList ++ (blanks ++ '(' :: (parts.arguments.toList ++
      ')' :: rest))) = some (parts.name.toList, blanks ++ '(' :: (parts.arguments.toList ++
      ')' :: rest)) :=
    takeName?_append hname (isWord_eq_false_before_arguments hblanks)
  have hopen : trimLeft (blanks ++ '(' :: (parts.arguments.toList ++ ')' :: rest)) =
      "(".toList ++ (parts.arguments.toList ++ ')' :: rest) :=
    trimLeft_before_arguments hblanks
  have hlist : (parts.arguments.toList ++ ')' :: rest).takeWhile isArgumentChar =
      parts.arguments.toList :=
    takeWhile_append_of_head? harguments (by simp [isArgumentChar])
  have hclose : (parts.arguments.toList ++ ')' :: rest).dropWhile isArgumentChar =
      ")".toList ++ rest :=
    dropWhile_append_of_head? harguments (by simp [isArgumentChar])
  simp only [readDeclaration?, Option.bind_eq_bind, Option.pure_def, htake, hskip, hnamed, hopen,
    hclose, hlist, skipWord?_append, Option.bind_some, String.ofList_toList]

/-! ### Words in front -/

/-- What follows the type in a declaration, without blanks in front: a mark, or the name of the
method with its parenthesis. -/
def FollowsType (s : List Char) : Prop :=
  (∃ mark rest, s = mark :: rest ∧ isMark mark) ∨
    ∃ name blanks rest, s = name ++ (blanks ++ '(' :: rest) ∧ IsName name ∧ IsBlanks blanks

theorem isName_const : IsName "const".toList := by
  rw [String.toList_ofList]
  exact ⟨'c', ['o', 'n', 's', 't'], rfl, rfl, by simp [isWord]⟩

theorem isName_virtual : IsName "virtual".toList := by
  rw [String.toList_ofList]
  exact ⟨'v', ['i', 'r', 't', 'u', 'a', 'l'], rfl, rfl, by simp [isWord]⟩

/-- A word before blanks is taken as a type, and the blanks end it. -/
private theorem takeType?_word {blanks : List Char} (hword : IsName word.toList)
    (hblanks : IsBlanks blanks) (hne : blanks ≠ []) :
    takeType? (word.toList ++ (blanks ++ rest)) = some (word.toList, blanks ++ rest) :=
  takeType?_append hword.isType (endsType_append_of_isSeparator (.inl ⟨hblanks, hne⟩))

/-- Where a word that could be a qualifier is the type of a declaration, the rest of the
declaration follows it. -/
theorem followsType_of_skipQualifier? (hword : IsName word.toList) (h : parts.FitsDeclaration s)
    (hskip : skipQualifier? word s = some rest) : FollowsType rest := by
  obtain ⟨blanks, rfl, hblanks, hne, hrest⟩ := skipQualifier?_eq_some_iff.1 hskip
  obtain ⟨separator, blanks', tail, heq, htype, hseparator, hname, hblanks', -⟩ := h
  have htake : takeType? (parts.resultType.toList ++ (separator ++ (parts.name.toList ++
      (blanks' ++ '(' :: (parts.arguments.toList ++ ')' :: tail))))) =
      some (parts.resultType.toList, separator ++ (parts.name.toList ++ (blanks' ++ '(' ::
      (parts.arguments.toList ++ ')' :: tail)))) :=
    takeType?_append htype (endsType_append_of_isSeparator hseparator)
  rw [← heq, takeType?_word hword hblanks hne] at htake
  -- the type is the word, so both cuts leave the same text behind it
  have hleft := (Prod.mk.inj (Option.some.inj htake)).2
  have htrim := trimLeft_append_of_head? hblanks hrest
  rw [hleft] at htrim
  rcases hseparator with ⟨hall, -⟩ | ⟨left, mark, right, rfl, hall, hmark, -⟩
  · obtain ⟨c, cs, hcons, hc⟩ := hname.exists_cons
    rw [trimLeft_append_of_head? hall] at htrim
    · exact .inr ⟨_, _, _, htrim.symm, hname, hblanks'⟩
    · rw [hcons]
      simpa using isBlank_eq_false_of_isNameStart hc
  · rw [List.append_assoc, List.cons_append, trimLeft_append_of_head? hall] at htrim
    · exact .inl ⟨mark, _, htrim.symm, hmark⟩
    · simpa using isBlank_eq_false_of_isMark hmark

theorem isNameStart_eq_false_of_isMark {c : Char} (h : isMark c) : isNameStart c = false := by
  by_contra hstart
  exact absurd (isMark_eq_false_of_isNameStart (by simpa using hstart)) (by simp [h])

/-- What follows the type in a declaration is no declaration. -/
theorem readDeclaration?_eq_none_of_followsType (h : FollowsType s) :
    readDeclaration? isVirtual s = none := by
  rcases h with ⟨mark, rest, rfl, hmark⟩ | ⟨name, blanks, rest, rfl, hname, hblanks⟩
  · simp [readDeclaration?, takeType?, isNameStart_eq_false_of_isMark hmark]
  · have hmark : isMark '(' = false := by decide
    have hstart : isNameStart '(' = false := by decide
    simp only [readDeclaration?, takeType?_append hname.isType (endsType_before_arguments hblanks),
      skipSeparator?, trimLeft_before_arguments hblanks, hmark, Option.bind_eq_bind,
      Option.bind_some]
    cases blanks with
    | nil => rfl
    | cons b bs => simp [hblanks b (by simp), takeName?, hstart]

/-- Behind a word at its head that could be a qualifier, only the argument list is left of it. -/
theorem FollowsType.exists_of_skipQualifier? (h : FollowsType s) (hword : IsName word.toList)
    (hskip : skipQualifier? word s = some rest) : ∃ tail, rest = '(' :: tail := by
  obtain ⟨blanks, rfl, hblanks, hne, hrest⟩ := skipQualifier?_eq_some_iff.1 hskip
  rcases h with ⟨mark, tail, heq, hmark⟩ | ⟨name, blanks', tail, heq, hname, hblanks'⟩
  · obtain ⟨c, cs, hcons, hc⟩ := hword.exists_cons
    rw [hcons] at heq
    obtain rfl : c = mark := (List.cons.inj heq).1
    rw [isMark_eq_false_of_isNameStart hc] at hmark
    cases hmark
  · have htake : takeType? (name ++ (blanks' ++ '(' :: tail)) =
        some (name, blanks' ++ '(' :: tail) :=
      takeType?_append hname.isType (endsType_before_arguments hblanks')
    rw [← heq, takeType?_word hword hblanks hne] at htake
    have htrim := trimLeft_append_of_head? hblanks hrest
    rw [(Prod.mk.inj (Option.some.inj htake)).2, trimLeft_before_arguments hblanks'] at htrim
    exact ⟨tail, htrim.symm⟩

/-- Nor does a `const` among it make one of it. -/
theorem readConst?_eq_none_of_followsType (h : FollowsType s) : readConst? isVirtual s = none := by
  rw [readConst?, readDeclaration?_eq_none_of_followsType h, Option.or_none,
    Option.bind_eq_none_iff]
  intro left hskip
  obtain ⟨tail, rfl⟩ := h.exists_of_skipQualifier? isName_const hskip
  rfl

/-- Nor does a `virtual` among it. -/
theorem readVirtual?_eq_none_of_followsType (h : FollowsType s) : readVirtual? s = none := by
  rw [readVirtual?, readConst?_eq_none_of_followsType h, Option.or_none, Option.bind_eq_none_iff]
  intro left hskip
  obtain ⟨tail, rfl⟩ := h.exists_of_skipQualifier? isName_virtual hskip
  rfl

/-! ### Qualifiers -/

/-- A text that reads as the parts from a possible `const` on. -/
def LineParts.FitsConst (parts : LineParts) (s : List Char) : Prop :=
  ∃ isConst constant rest, s = constant ++ rest ∧ IsQualifier "const" isConst constant ∧
    parts.FitsDeclaration rest

/-- A text that reads as the parts from a possible `virtual` on. -/
def LineParts.FitsVirtual (parts : LineParts) (s : List Char) : Prop :=
  ∃ marked rest, s = marked ++ rest ∧ IsQualifier "virtual" parts.isVirtual marked ∧
    parts.FitsConst rest

theorem isBlank_eq_false_of_fitsConst (h : parts.FitsConst s) :
    ∀ c ∈ s.head?, isBlank c = false := by
  obtain ⟨isConst, constant, rest, rfl, hconst, hfits⟩ := h
  cases isConst with
  | false =>
    obtain rfl : constant = [] := hconst
    exact isBlank_eq_false_of_fitsDeclaration hfits
  | true =>
    obtain ⟨blanks, rfl, -, -⟩ := hconst
    intro c hc
    obtain rfl : 'c' = c := by simpa using hc
    decide

theorem isBlank_eq_false_of_fitsVirtual (h : parts.FitsVirtual s) :
    ∀ c ∈ s.head?, isBlank c = false := by
  obtain ⟨marked, rest, rfl, hvirtual, hfits⟩ := h
  cases hflag : parts.isVirtual with
  | false =>
    rw [hflag] at hvirtual
    obtain rfl : marked = [] := hvirtual
    exact isBlank_eq_false_of_fitsConst hfits
  | true =>
    rw [hflag] at hvirtual
    obtain ⟨blanks, rfl, -, -⟩ := hvirtual
    intro c hc
    obtain rfl : 'v' = c := by simpa using hc
    decide

theorem readConst?_eq_some_iff :
    readConst? isVirtual s = some parts ↔ parts.isVirtual = isVirtual ∧ parts.FitsConst s := by
  constructor
  · intro h
    rw [readConst?, Option.or_eq_some_iff] at h
    rcases h with h | ⟨-, h⟩
    · obtain ⟨rest, hskip, hread⟩ := Option.bind_eq_some_iff.1 h
      obtain ⟨blanks, rfl, hblanks, hne, -⟩ := skipQualifier?_eq_some_iff.1 hskip
      obtain ⟨hflag, hfits⟩ := readDeclaration?_sound hread
      exact ⟨hflag, true, _, rest, (List.append_assoc _ _ _).symm, ⟨blanks, rfl, hblanks, hne⟩,
        hfits⟩
    · obtain ⟨hflag, hfits⟩ := readDeclaration?_sound h
      exact ⟨hflag, false, [], s, rfl, rfl, hfits⟩
  · rintro ⟨rfl, isConst, constant, rest, rfl, hconst, hfits⟩
    have hread := readDeclaration?_of_fitsDeclaration hfits
    cases isConst with
    | true =>
      obtain ⟨blanks, rfl, hblanks, hne⟩ := hconst
      have hskip : skipQualifier? "const" ("const".toList ++ blanks ++ rest) = some rest :=
        skipQualifier?_eq_some_iff.2 ⟨blanks, List.append_assoc _ _ _, hblanks, hne,
          isBlank_eq_false_of_fitsDeclaration hfits⟩
      rw [readConst?, hskip, Option.bind_some, hread, Option.some_or]
    | false =>
      obtain rfl : constant = [] := hconst
      -- the reader tries a `const` first, and finds no declaration behind it
      have hfirst :
          (skipQualifier? "const" rest).bind (readDeclaration? parts.isVirtual) = none := by
        refine Option.bind_eq_none_iff.2 fun left hskip ↦ ?_
        exact readDeclaration?_eq_none_of_followsType
          (followsType_of_skipQualifier? isName_const hfits hskip)
      rw [List.nil_append, readConst?, hfirst, Option.none_or, hread]

theorem readVirtual?_eq_some_iff : readVirtual? s = some parts ↔ parts.FitsVirtual s := by
  constructor
  · intro h
    rw [readVirtual?, Option.or_eq_some_iff] at h
    rcases h with h | ⟨-, h⟩
    · obtain ⟨rest, hskip, hread⟩ := Option.bind_eq_some_iff.1 h
      obtain ⟨blanks, rfl, hblanks, hne, -⟩ := skipQualifier?_eq_some_iff.1 hskip
      obtain ⟨hflag, hfits⟩ := readConst?_eq_some_iff.1 hread
      exact ⟨_, rest, (List.append_assoc _ _ _).symm,
        by rw [hflag]; exact ⟨blanks, rfl, hblanks, hne⟩, hfits⟩
    · obtain ⟨hflag, hfits⟩ := readConst?_eq_some_iff.1 h
      exact ⟨[], s, rfl, by rw [hflag]; rfl, hfits⟩
  · rintro ⟨marked, rest, rfl, hvirtual, hfits⟩
    cases hflag : parts.isVirtual with
    | true =>
      rw [hflag] at hvirtual
      obtain ⟨blanks, rfl, hblanks, hne⟩ := hvirtual
      have hskip : skipQualifier? "virtual" ("virtual".toList ++ blanks ++ rest) = some rest :=
        skipQualifier?_eq_some_iff.2 ⟨blanks, List.append_assoc _ _ _, hblanks, hne,
          isBlank_eq_false_of_fitsConst hfits⟩
      rw [readVirtual?, hskip, Option.bind_some, readConst?_eq_some_iff.2 ⟨hflag, hfits⟩,
        Option.some_or]
    | false =>
      rw [hflag] at hvirtual
      obtain rfl : marked = [] := hvirtual
      have hfirst : (skipQualifier? "virtual" rest).bind (readConst? true) = none := by
        refine Option.bind_eq_none_iff.2 fun left hskip ↦ ?_
        obtain ⟨isConst, constant, rest', rfl, hconst, hdeclaration⟩ := hfits
        cases isConst with
        | true =>
          -- a text that begins with `const` does not begin with `virtual`
          obtain ⟨blanks, rfl, -, -⟩ := hconst
          obtain ⟨blanks', heq, -⟩ := skipQualifier?_eq_some_iff.1 hskip
          exact absurd (List.cons.inj heq).1 (by decide)
        | false =>
          obtain rfl : constant = [] := hconst
          exact readConst?_eq_none_of_followsType
            (followsType_of_skipQualifier? isName_virtual hdeclaration hskip)
      rw [List.nil_append, readVirtual?, hfirst, Option.none_or,
        readConst?_eq_some_iff.2 ⟨hflag, hfits⟩]

/-! ### Lines -/

theorem LineParts.fits_iff : parts.Fits s ↔
    ∃ blanks₁ blanks₂ rest, s = "//".toList ++ (blanks₁ ++ ("TODO:".toList ++ (blanks₂ ++ rest))) ∧
      IsBlanks blanks₁ ∧ IsBlanks blanks₂ ∧ parts.FitsVirtual rest := by
  constructor
  · rintro ⟨blanks₁, blanks₂, marked, constant, separator, blanks₃, rest, isConst, rfl, h₁, h₂, h₃,
      hvirtual, hconst, htype, hseparator, hname, harguments⟩
    exact ⟨blanks₁, blanks₂, _, by simp, h₁, h₂, marked, _, rfl, hvirtual, isConst, constant, _,
      rfl, hconst, separator, blanks₃, rest, rfl, htype, hseparator, hname, h₃, harguments⟩
  · rintro ⟨blanks₁, blanks₂, _, rfl, h₁, h₂, marked, _, rfl, hvirtual, isConst, constant, _, rfl,
      hconst, separator, blanks₃, rest, rfl, htype, hseparator, hname, h₃, harguments⟩
    exact ⟨blanks₁, blanks₂, marked, constant, separator, blanks₃, rest, isConst, by simp, h₁, h₂,
      h₃, hvirtual, hconst, htype, hseparator, hname, harguments⟩

/-- A line is read from behind the words at its head. -/
theorem readLine?_append {blanks₁ blanks₂ rest : List Char} (h₁ : IsBlanks blanks₁)
    (h₂ : IsBlanks blanks₂) (hrest : ∀ c ∈ rest.head?, isBlank c = false) :
    readLine? ("//".toList ++ (blanks₁ ++ ("TODO:".toList ++ (blanks₂ ++ rest)))) =
      readVirtual? rest := by
  have htrim : trimLeft (blanks₁ ++ ("TODO:".toList ++ (blanks₂ ++ rest))) =
      "TODO:".toList ++ (blanks₂ ++ rest) := by
    refine trimLeft_append_of_head? h₁ fun c hc ↦ ?_
    obtain rfl : 'T' = c := by simpa using hc
    decide
  simp only [readLine?, skipWord?_append, Option.bind_eq_bind, Option.bind_some, htrim,
    trimLeft_append_of_head? h₂ hrest]

/-- A line is read as the parts that it fits. -/
theorem readLine?_eq_some_iff : readLine? s = some parts ↔ parts.Fits s := by
  rw [LineParts.fits_iff]
  constructor
  · simp only [readLine?, Option.bind_eq_bind, Option.bind_eq_some_iff, skipWord?_eq_some_iff,
      readVirtual?_eq_some_iff]
    rintro ⟨s₁, rfl, s₂, hs₁, hfits⟩
    obtain ⟨blanks₁, h₁, heq₁⟩ := exists_append_trimLeft s₁
    obtain ⟨blanks₂, h₂, heq₂⟩ := exists_append_trimLeft s₂
    refine ⟨blanks₁, blanks₂, trimLeft s₂, ?_, h₁, h₂, hfits⟩
    rw [← heq₂, ← hs₁, ← heq₁]
  · rintro ⟨blanks₁, blanks₂, rest, rfl, h₁, h₂, hfits⟩
    rw [readLine?_append h₁ h₂ (isBlank_eq_false_of_fitsVirtual hfits)]
    exact readVirtual?_eq_some_iff.2 hfits

/-- A line fits at most one choice of parts. -/
theorem LineParts.Fits.unique {other : LineParts} (h : parts.Fits s) (h' : other.Fits s) :
    parts = other :=
  Option.some.inj ((readLine?_eq_some_iff.2 h).symm.trans (readLine?_eq_some_iff.2 h'))

theorem readLine?_eq_none_iff : readLine? s = none ↔ ¬ ∃ parts : LineParts, parts.Fits s := by
  simp [Option.eq_none_iff_forall_ne_some, readLine?_eq_some_iff]

end BindingGlue.Signature
