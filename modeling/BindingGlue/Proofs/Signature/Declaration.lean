import BindingGlue.Proofs.Signature.Line

/-!
# Single arguments

What is read from the declaration of an argument: the declaration falls into an optional `const`, a
type, blanks or marks, and a name, and the spelling that is read is the type as it stands
(`readArgument?_sound`). Once the type is taken, a separator and a name behind it are read
(`readTyped?_of_takeType?`). A type and a name with blanks between them are read as the two, also
where the type is the word `const` itself (`readArgument?_append_blanks`): behind a qualifier no
declaration would be left.
-/

namespace BindingGlue.Signature

open Text BindingGlue.Types

variable {s rest type name : List Char} {spelling word : String}

/-! ### Characters of types -/

theorem isMark_eq_false_of_isTypeChar {c : Char} (h : isTypeChar c) : isMark c = false := by
  by_contra hmark
  rw [isTypeChar_eq_false_of_isMark (by simpa using hmark)] at h
  cases h

theorem isMark_eq_false_of_isBlank {c : Char} (h : isBlank c) : isMark c = false := by
  by_contra hmark
  rw [isBlank_eq_false_of_isMark (by simpa using hmark)] at h
  cases h

theorem isBlank_eq_false_of_isTypeChar {c : Char} (h : isTypeChar c) : isBlank c = false := by
  by_contra hblank
  rw [isTypeChar_eq_false_of_isBlank (by simpa using hblank)] at h
  cases h

/-- No parenthesis is in a class of characters that the two are not in. -/
theorem isArgumentChar_of_class {p : Char → Bool} (hopen : p '(' = false) (hclose : p ')' = false)
    {c : Char} (h : p c) : isArgumentChar c := by
  rw [isArgumentChar, Bool.and_eq_true, bne_iff_ne, bne_iff_ne]
  refine ⟨?_, ?_⟩
  · rintro rfl
    exact absurd h (by simp [hopen])
  · rintro rfl
    exact absurd h (by simp [hclose])

theorem isArgumentChar_of_isTypeChar {c : Char} (h : isTypeChar c) : isArgumentChar c :=
  isArgumentChar_of_class (by simp [isTypeChar, isWord]) (by simp [isTypeChar, isWord]) h

/-- No parenthesis is in a type. -/
theorem IsType.isArgumentChar_of_mem (h : IsType type) {d : Char} (hd : d ∈ type) :
    isArgumentChar d := by
  obtain ⟨c, cs, arguments, rfl, hc, hcs, harguments⟩ := h
  rw [List.cons_append, List.mem_cons, List.mem_append] at hd
  rcases hd with rfl | hd | hd
  · exact isArgumentChar_of_isTypeChar (isTypeChar_of_isWord (isWord_of_isNameStart hc))
  · exact isArgumentChar_of_isTypeChar (hcs d hd)
  · rcases harguments with rfl | ⟨inner, rfl, hinner⟩
    · cases hd
    · rw [List.cons_append, List.mem_cons, List.mem_append, List.mem_singleton] at hd
      rcases hd with rfl | hd | rfl
      · decide
      · have hd := hinner d hd
        simp only [isElementChar, Bool.and_eq_true, isArgumentChar] at hd ⊢
        exact ⟨hd.1.2, hd.2⟩
      · decide

/-- A type ends in a character of its name or in a bracket. -/
theorem IsType.getLast? (h : IsType type) : ∀ c ∈ type.getLast?, isTypeChar c ∨ c = '>' := by
  obtain ⟨c, cs, arguments, rfl, hc, hcs, harguments⟩ := h
  intro d hd
  rcases harguments with rfl | ⟨inner, rfl, -⟩
  · rw [List.append_nil] at hd
    rcases List.mem_cons.1 (List.mem_of_getLast? hd) with rfl | hd
    · exact .inl (isTypeChar_of_isWord (isWord_of_isNameStart hc))
    · exact .inl (hcs d hd)
  · rw [List.getLast?_append_of_ne_nil _ (by simp),
      List.getLast?_append_of_ne_nil _ (by simp)] at hd
    exact .inr (by simpa using hd.symm)

/-- A word with a blank behind it at the head of a type and a space is the type itself. -/
theorem IsType.eq_of_skipQualifier? (h : IsType type) (hword : IsName word.toList)
    (hrest : EndsType rest) {left : List Char}
    (hskip : skipQualifier? word (type ++ rest) = some left) :
    type = word.toList ∧ left = trimLeft rest := by
  obtain ⟨blanks, heq, hblanks, hne, hleft⟩ := skipQualifier?_eq_some_iff.1 hskip
  have htake := takeType?_append h hrest
  rw [heq, takeType?_append hword.isType
    (endsType_append_of_isSeparator (.inl ⟨hblanks, hne⟩))] at htake
  obtain ⟨rfl, rfl⟩ := Prod.mk.inj (Option.some.inj htake)
  exact ⟨rfl, (trimLeft_append_of_head? hblanks hleft).symm⟩

/-! ### The parts of an argument -/

/-- What stands between the type of an argument and its name. -/
def IsArgumentSeparator (s : List Char) : Prop :=
  (IsBlanks s ∧ s ≠ []) ∨ IsMarks s

/-- A text that reads as the type and the name, without a qualifier in front. -/
def FitsTyped (type name s : List Char) : Prop :=
  ∃ separator, s = type ++ (separator ++ name) ∧ IsType type ∧ IsArgumentSeparator separator ∧
    ∀ c ∈ name, isWord c

/-- An argument reads from its type on, or behind a qualifier. -/
theorem argumentFits_iff :
    ArgumentFits type name s ↔ FitsTyped type name s ∨
      ∃ blanks rest, s = "const".toList ++ (blanks ++ rest) ∧ IsBlanks blanks ∧ blanks ≠ [] ∧
        FitsTyped type name rest := by
  constructor
  · rintro ⟨constant, isConst, separator, rfl, hconstant, htype, hseparator, hname⟩
    cases isConst with
    | false =>
      obtain rfl : constant = [] := hconstant
      exact .inl ⟨separator, by simp, htype, hseparator, hname⟩
    | true =>
      obtain ⟨blanks, rfl, hblanks, hne⟩ := hconstant
      exact .inr ⟨blanks, _, by simp, hblanks, hne, separator, rfl, htype, hseparator, hname⟩
  · rintro (⟨separator, rfl, htype, hseparator, hname⟩ |
      ⟨blanks, rest, rfl, hblanks, hne, separator, rfl, htype, hseparator, hname⟩)
    · exact ⟨[], false, separator, by simp, rfl, htype, hseparator, hname⟩
    · exact ⟨"const".toList ++ blanks, true, separator, by simp, ⟨blanks, rfl, hblanks, hne⟩, htype,
        hseparator, hname⟩

/-! ### What is read -/

/-- What follows a run of marks and the blanks behind it. -/
def afterMarks? : List Char → Option (List Char)
  | [] => none
  | c :: rest => if isMark c then some (trimLeft (rest.dropWhile isMark)) else none

theorem skipMarks?_eq (s : List Char) :
    skipMarks? s = ((skipWord? "const" (trimLeft s)).bind (afterMarks? <| trimLeft ·)).or
      (afterMarks? (trimLeft s)) :=
  rfl

theorem afterMarks?_sound (h : afterMarks? s = some rest) :
    ∃ marks right, s = marks ++ right ++ rest ∧ (∀ c ∈ marks, isMark c) ∧ marks ≠ [] ∧
      IsBlanks right := by
  cases s with
  | nil => cases h
  | cons c cs =>
    rw [afterMarks?] at h
    split at h
    case isFalse => cases h
    case isTrue hc =>
      obtain ⟨right, hright, hsplit⟩ := exists_append_trimLeft (cs.dropWhile isMark)
      obtain rfl := Option.some.inj h
      refine ⟨c :: cs.takeWhile isMark, right, ?_, ?_, by simp, hright⟩
      · rw [List.append_assoc, ← hsplit, List.cons_append, List.takeWhile_append_dropWhile]
      · intro d hd
        rcases List.mem_cons.1 hd with rfl | hd
        · exact hc
        · exact List.mem_takeWhile_imp hd

/-- What is skipped as marks are marks. -/
theorem skipMarks?_sound (h : skipMarks? s = some rest) :
    ∃ separator, s = separator ++ rest ∧ IsMarks separator := by
  obtain ⟨left, hleft, hs⟩ := exists_append_trimLeft s
  rw [skipMarks?_eq] at h
  rcases Option.or_eq_some_iff.1 h with h | ⟨-, h⟩
  · -- a `const` stands among the blanks in front of the marks
    obtain ⟨after, hword, h⟩ := Option.bind_eq_some_iff.1 h
    obtain ⟨middle, hmiddle, hafter⟩ := exists_append_trimLeft after
    obtain ⟨marks, right, hsplit, hall, hne, hright⟩ := afterMarks?_sound h
    refine ⟨left ++ ("const".toList ++ middle) ++ marks ++ right, ?_, left,
      "const".toList ++ middle, marks, right, rfl, hleft, .inr ⟨middle, rfl, hmiddle⟩, hall, hne,
      hright⟩
    rw [hs, skipWord?_eq_some_iff.1 hword, hafter, hsplit]
    simp
  · obtain ⟨marks, right, hsplit, hall, hne, hright⟩ := afterMarks?_sound h
    refine ⟨left ++ [] ++ marks ++ right, ?_, left, [], marks, right, rfl, hleft, .inl rfl, hall,
      hne, hright⟩
    rw [hs, hsplit]
    simp

theorem readTyped?_sound {name : String} (h : readTyped? s = some (spelling, name)) :
    FitsTyped spelling.toList name.toList s := by
  have hnamed : ∀ {type rest : List Char}, (if rest.all isWord then
      some (String.ofList type, String.ofList rest) else none) = some (spelling, name) →
      spelling.toList = type ∧ name.toList = rest ∧ ∀ c ∈ rest, isWord c := by
    intro type rest h
    split at h
    case isTrue hall =>
      obtain ⟨rfl, rfl⟩ := Prod.mk.inj (Option.some.inj h)
      exact ⟨String.toList_ofList, String.toList_ofList, List.all_eq_true.1 hall⟩
    case isFalse => cases h
  simp only [readTyped?, Option.bind_eq_bind, Option.bind_eq_some_iff, Prod.exists] at h
  obtain ⟨type, rest, htake, h⟩ := h
  obtain ⟨rfl, htype⟩ := takeType?_sound htake
  rcases Option.or_eq_some_iff.1 h with h | ⟨-, h⟩
  · obtain ⟨left, hskip, hread⟩ := Option.bind_eq_some_iff.1 h
    obtain ⟨separator, rfl, hmarks⟩ := skipMarks?_sound hskip
    obtain ⟨rfl, rfl, hword⟩ := hnamed hread
    exact ⟨separator, rfl, htype, .inr hmarks, hword⟩
  · cases rest with
    | nil => cases h
    | cons b rest =>
      simp only at h
      split at h
      case isFalse => cases h
      case isTrue hb =>
        obtain ⟨blanks, hblanks, hsplit⟩ := exists_append_trimLeft rest
        obtain ⟨rfl, hname, hword⟩ := hnamed h
        refine ⟨b :: blanks, ?_, htype, .inl ⟨?_, by simp⟩, by rwa [hname]⟩
        · rw [hname, List.cons_append, ← hsplit]
        · intro d hd
          rcases List.mem_cons.1 hd with rfl | hd
          · exact hb
          · exact hblanks d hd

/-- What is read from a declaration is a way to take it apart. -/
theorem readArgument?_sound {name : String} (h : readArgument? s = some (spelling, name)) :
    ArgumentFits spelling.toList name.toList s := by
  rw [argumentFits_iff]
  rcases Option.or_eq_some_iff.1 h with h | ⟨-, h⟩
  · obtain ⟨rest, hskip, hread⟩ := Option.bind_eq_some_iff.1 h
    obtain ⟨blanks, rfl, hblanks, hne, -⟩ := skipQualifier?_eq_some_iff.1 hskip
    exact .inr ⟨blanks, rest, rfl, hblanks, hne, readTyped?_sound hread⟩
  · exact .inl (readTyped?_sound h)

/-! ### A type and a name -/

theorem head?_of_isWord (hname : ∀ c ∈ name, isWord c) : ∀ c ∈ name.head?, isBlank c = false :=
  fun c hc ↦ isBlank_eq_false_of_isWord (hname c (List.mem_of_mem_head? hc))

theorem isMark_eq_false_of_isWord {c : Char} (h : isWord c) : isMark c = false :=
  isMark_eq_false_of_isTypeChar (isTypeChar_of_isWord h)

/-- Marks are skipped with the blanks behind them, up to a name. -/
theorem afterMarks?_append {marks right : List Char} (hmarks : ∀ c ∈ marks, isMark c)
    (hne : marks ≠ []) (hright : IsBlanks right) (hname : ∀ c ∈ name, isWord c) :
    afterMarks? (marks ++ (right ++ name)) = some name := by
  cases marks with
  | nil => exact absurd rfl hne
  | cons c cs =>
    have hhead : ∀ d ∈ (right ++ name).head?, isMark d = false := by
      intro d hd
      rcases List.mem_append.1 (List.mem_of_mem_head? hd) with hd | hd
      · exact isMark_eq_false_of_isBlank (hright d hd)
      · exact isMark_eq_false_of_isWord (hname d hd)
    have hcs : ∀ d ∈ cs, isMark d := fun d hd ↦ hmarks d (List.mem_cons_of_mem c hd)
    rw [List.cons_append, afterMarks?, if_pos (hmarks c List.mem_cons_self),
      dropWhile_append_of_head? hcs hhead, trimLeft_append_of_head? hright (head?_of_isWord hname)]

/-- Without a mark there are no marks to skip, whatever blanks and words there are. -/
theorem skipMarks?_eq_none (h : ∀ c ∈ s, isMark c = false) : skipMarks? s = none := by
  cases hskip : skipMarks? s with
  | none => rfl
  | some rest =>
    obtain ⟨_, rfl, left, constant, marks, right, rfl, -, -, hmarks, hne, -⟩ :=
      skipMarks?_sound hskip
    obtain ⟨c, hc⟩ := List.exists_mem_of_ne_nil _ hne
    have hmark := h c (by simp [hc])
    rw [hmarks c hc] at hmark
    cases hmark

/-- Marks are skipped up to a name, with a `const` in front of them or without. -/
theorem skipMarks?_append {marks : List Char} (hmarks : IsMarks marks)
    (hname : ∀ c ∈ name, isWord c) : skipMarks? (marks ++ name) = some name := by
  obtain ⟨left, constant, marks, right, rfl, hleft, hconstant, hmarks, hne, hright⟩ := hmarks
  have hafter : afterMarks? (marks ++ (right ++ name)) = some name :=
    afterMarks?_append hmarks hne hright hname
  have hhead : ∀ c ∈ (marks ++ (right ++ name)).head?, isBlank c = false ∧ c ≠ 'c' := by
    intro c hc
    rw [List.head?_append_of_ne_nil _ hne] at hc
    have hc := hmarks c (List.mem_of_mem_head? hc)
    exact ⟨isBlank_eq_false_of_isMark hc, by rintro rfl; exact absurd hc (by decide)⟩
  rw [List.append_assoc, List.append_assoc, List.append_assoc, skipMarks?_eq]
  rcases hconstant with rfl | ⟨blanks, rfl, hblanks⟩
  · rw [List.nil_append, trimLeft_append_of_head? hleft fun c hc ↦ (hhead c hc).1]
    -- the marks do not begin with a `const`
    have hword : skipWord? "const" (marks ++ (right ++ name)) = none := by
      cases hskip : skipWord? "const" (marks ++ (right ++ name)) with
      | none => rfl
      | some rest =>
        rw [skipWord?_eq_some_iff.1 hskip] at hhead
        exact absurd rfl (hhead 'c' (by simp)).2
    rw [hword, Option.bind_none, Option.none_or, hafter]
  · have hconst : trimLeft (left ++ ("const".toList ++ blanks ++ (marks ++ (right ++ name)))) =
        "const".toList ++ (blanks ++ (marks ++ (right ++ name))) := by
      rw [List.append_assoc]
      refine trimLeft_append_of_head? hleft fun c hc ↦ ?_
      obtain rfl : 'c' = c := by simpa using hc
      decide
    rw [hconst, skipWord?_append, Option.bind_some,
      trimLeft_append_of_head? hblanks fun c hc ↦ (hhead c hc).1, hafter, Option.some_or]

/-- Behind the type that is taken, a separator and a name are read. -/
theorem readTyped?_of_takeType? {separator : List Char}
    (htake : takeType? s = some (type, separator ++ name))
    (hseparator : IsArgumentSeparator separator) (hname : ∀ c ∈ name, isWord c) :
    readTyped? s = some (String.ofList type, String.ofList name) := by
  have hall : name.all isWord = true := List.all_eq_true.2 hname
  rw [readTyped?, htake]
  rcases hseparator with ⟨hblanks, hne⟩ | hmarks
  · cases separator with
    | nil => exact absurd rfl hne
    | cons b blanks =>
      have htrim : trimLeft (blanks ++ name) = name :=
        trimLeft_append_of_head? (fun c hc ↦ hblanks c (List.mem_cons_of_mem b hc))
          (head?_of_isWord hname)
      show ((skipMarks? (b :: blanks ++ name)).bind _).or (if isBlank b then
        if (trimLeft (blanks ++ name)).all isWord then
          some (String.ofList type, String.ofList (trimLeft (blanks ++ name))) else none
        else none) = _
      have hmarks : ∀ c ∈ b :: blanks ++ name, isMark c = false :=
        List.forall_mem_append.2 ⟨fun c hc ↦ isMark_eq_false_of_isBlank (hblanks c hc),
          fun c hc ↦ isMark_eq_false_of_isWord (hname c hc)⟩
      rw [skipMarks?_eq_none hmarks, Option.bind_none, Option.none_or,
        if_pos (hblanks b List.mem_cons_self), htrim, if_pos hall]
  · show ((skipMarks? (separator ++ name)).bind _).or _ = _
    rw [skipMarks?_append hmarks hname, Option.bind_some, if_pos hall, Option.some_or]

/-- A single word is no type with a name. -/
theorem readTyped?_eq_none_of_isWord (hname : ∀ c ∈ name, isWord c) : readTyped? name = none := by
  cases name with
  | nil => rfl
  | cons c cs =>
    have hcs : ∀ d ∈ cs, isTypeChar d :=
      fun d hd ↦ isTypeChar_of_isWord (hname d (List.mem_cons_of_mem c hd))
    have htake : cs.takeWhile isTypeChar = cs := List.takeWhile_eq_self_iff.2 hcs
    have hdrop : cs.dropWhile isTypeChar = [] := List.dropWhile_eq_nil_iff.2 hcs
    rw [readTyped?, takeType?, htake, hdrop]
    split
    · rfl
    · rfl

/-- Nor is a whole type. -/
theorem IsType.readTyped?_eq_none (h : IsType type) : readTyped? type = none := by
  have hends : EndsType [] := by simp [EndsType]
  have htake := takeType?_append h hends
  rw [List.append_nil] at htake
  rw [readTyped?, htake]
  rfl

/-- A type and a name with blanks between them are read as the two. -/
theorem readArgument?_append_blanks {blanks : List Char} (htype : IsType type)
    (hblanks : IsBlanks blanks) (hne : blanks ≠ []) (hname : ∀ c ∈ name, isWord c) :
    readArgument? (type ++ (blanks ++ name)) = some (String.ofList type, String.ofList name) := by
  have hends : EndsType (blanks ++ name) := endsType_append_of_isSeparator (.inl ⟨hblanks, hne⟩)
  -- where the type is `const`, only the name would be left behind a qualifier
  have hfirst : (skipQualifier? "const" (type ++ (blanks ++ name))).bind readTyped? = none := by
    refine Option.bind_eq_none_iff.2 fun left hskip ↦ ?_
    obtain ⟨-, rfl⟩ := htype.eq_of_skipQualifier? isName_const hends hskip
    rw [trimLeft_append_of_head? hblanks (head?_of_isWord hname),
      readTyped?_eq_none_of_isWord hname]
  have hread : readTyped? (type ++ (blanks ++ name)) =
      some (String.ofList type, String.ofList name) :=
    readTyped?_of_takeType? (takeType?_append htype hends) (.inl ⟨hblanks, hne⟩) hname
  rw [readArgument?, hfirst, Option.none_or, hread]

end BindingGlue.Signature
