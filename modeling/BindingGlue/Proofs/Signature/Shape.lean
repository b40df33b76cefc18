import BindingGlue.Proofs.Text.Runs
import BindingGlue.Signature.Grammar

/-!
# What the readers of a line take

A line is read from left to right, and each reader takes the longest piece of its kind. For every
reader this module says what it takes in the words of the grammar: what is taken is a piece of the
right form and what is left follows it (`takeType?_sound` and its kin), and a piece of the right
form is taken if the text after it does not go on with it (`takeType?_append` and its kin).
-/

namespace BindingGlue.Signature

open Text BindingGlue.Types

variable {s rest type name separator blanks : List Char} {word : String}

/-! ### Characters -/

theorem isBlanks_space : IsBlanks [' '] := by
  intro c hc
  obtain rfl := List.mem_singleton.1 hc
  decide

theorem isBlank_eq_false_of_isMark {c : Char} (h : isMark c) : isBlank c = false := by
  simp only [isMark, Bool.or_eq_true, beq_iff_eq] at h
  rcases h with rfl | rfl <;> decide

theorem isTypeChar_eq_false_of_isMark {c : Char} (h : isMark c) : isTypeChar c = false := by
  simp only [isMark, Bool.or_eq_true, beq_iff_eq] at h
  rcases h with rfl | rfl <;> decide

theorem isMark_eq_false_of_isNameStart {c : Char} (h : isNameStart c) : isMark c = false := by
  by_contra hmark
  simp only [isMark, Bool.not_eq_false, Bool.or_eq_true, beq_iff_eq] at hmark
  rcases hmark with rfl | rfl <;> exact absurd h (by decide)

theorem isTypeChar_of_isWord {c : Char} (h : isWord c) : isTypeChar c := by
  simp [isTypeChar, h]

theorem isTypeChar_eq_false_of_isBlank {c : Char} (h : isBlank c) : isTypeChar c = false := by
  have hcolon : c ≠ ':' := by rintro rfl; exact absurd h (by decide)
  simp [isTypeChar, isWord_eq_false_of_isBlank h, hcolon]

/-- Whether the text after a type does not go on with it. -/
def EndsType (rest : List Char) : Prop :=
  ∀ c ∈ rest.head?, isTypeChar c = false ∧ c ≠ '<'

theorem endsType_cons_of_isBlank {c : Char} (h : isBlank c) : EndsType (c :: s) := by
  intro d hd
  obtain rfl : c = d := by simpa using hd
  exact ⟨isTypeChar_eq_false_of_isBlank h, by rintro rfl; exact absurd h (by decide)⟩

theorem endsType_cons_of_isMark {c : Char} (h : isMark c) : EndsType (c :: s) := by
  intro d hd
  obtain rfl : c = d := by simpa using hd
  exact ⟨isTypeChar_eq_false_of_isMark h, by rintro rfl; exact absurd h (by decide)⟩

/-- A separator ends the type before it. -/
theorem endsType_append_of_isSeparator (h : IsSeparator separator) : EndsType (separator ++ s) := by
  rcases h with ⟨hblanks, hne⟩ | ⟨left, mark, right, rfl, hleft, hmark, -⟩
  · cases separator with
    | nil => exact absurd rfl hne
    | cons c cs => exact endsType_cons_of_isBlank (hblanks c (by simp))
  · cases left with
    | nil => exact endsType_cons_of_isMark hmark
    | cons c cs => exact endsType_cons_of_isBlank (hleft c (by simp))

/-! ### Words -/

theorem skipWord?_eq_some_iff : skipWord? word s = some rest ↔ s = word.toList ++ rest := by
  rw [skipWord?, List.isPrefixOf?_eq_some_iff_append_eq, eq_comm]

@[simp]
theorem skipWord?_append (word : String) (rest : List Char) :
    skipWord? word (word.toList ++ rest) = some rest :=
  skipWord?_eq_some_iff.2 rfl

/-- A qualifier is skipped with all the blanks after it. -/
theorem skipQualifier?_eq_some_iff :
    skipQualifier? word s = some rest ↔
      ∃ blanks, s = word.toList ++ (blanks ++ rest) ∧ IsBlanks blanks ∧ blanks ≠ [] ∧
        ∀ c ∈ rest.head?, isBlank c = false := by
  constructor
  · intro h
    rw [skipQualifier?] at h
    split at h
    case h_2 => cases h
    case h_1 c left hword =>
      split at h
      case isFalse => cases h
      case isTrue hc =>
        obtain rfl : trimLeft left = rest := by simpa using h
        obtain ⟨blanks, hblanks, hleft⟩ := exists_append_trimLeft left
        refine ⟨c :: blanks, ?_, ?_, by simp, head?_trimLeft left⟩
        · rw [skipWord?_eq_some_iff.1 hword, List.cons_append, ← hleft]
        · intro d hd
          rcases List.mem_cons.1 hd with rfl | hd
          · exact hc
          · exact hblanks d hd
  · rintro ⟨blanks, rfl, hblanks, hne, hrest⟩
    cases blanks with
    | nil => exact absurd rfl hne
    | cons c cs =>
      have hcs : trimLeft (cs ++ rest) = rest :=
        trimLeft_append_of_head? (fun d hd ↦ hblanks d (by simp [hd])) hrest
      rw [skipQualifier?, skipWord?_append]
      simp [hblanks c (by simp), hcs]

/-- What holds of blanks and of the characters of a word holds of those of a qualifier. -/
theorem IsQualifier.forall_mem {p : Char → Prop} {isThere : Bool} (h : IsQualifier word isThere s)
    (hword : ∀ c ∈ word.toList, p c) (hblank : ∀ c, isBlank c → p c) : ∀ c ∈ s, p c := by
  cases isThere with
  | false =>
    obtain rfl : s = [] := h
    simp
  | true =>
    obtain ⟨blanks, rfl, hblanks, -⟩ := h
    rw [List.forall_mem_append]
    exact ⟨hword, fun c hc ↦ hblank c (hblanks c hc)⟩

/-! ### Types -/

theorem takeTemplateArguments_sound (s : List Char) :
    s = (takeTemplateArguments s).1 ++ (takeTemplateArguments s).2 ∧
      ((takeTemplateArguments s).1 = [] ∨ IsTemplateArguments (takeTemplateArguments s).1) := by
  rw [takeTemplateArguments.eq_def]
  split
  case h_2 => simp
  case h_1 inner =>
    split
    case h_2 => simp
    case h_1 rest hrest =>
      refine ⟨?_, .inr ⟨inner.takeWhile isElementChar, rfl, fun c hc ↦ List.mem_takeWhile_imp hc⟩⟩
      have hinner : inner = inner.takeWhile isElementChar ++ '>' :: rest := by
        rw [← hrest, List.takeWhile_append_dropWhile]
      simp [← hinner]

/-- Template arguments are taken whole; where there are none, the text must not begin with some. -/
theorem takeTemplateArguments_append {arguments : List Char}
    (h : arguments = [] ∨ IsTemplateArguments arguments) (hrest : arguments = [] → EndsType rest) :
    takeTemplateArguments (arguments ++ rest) = (arguments, rest) := by
  rcases h with rfl | ⟨inner, rfl, hinner⟩
  · cases rest with
    | nil => rfl
    | cons c cs =>
      have hc : c ≠ '<' := (hrest rfl c (by simp)).2
      rw [List.nil_append, takeTemplateArguments.eq_def]
      split
      case h_1 heq => exact absurd (List.cons.inj heq).1 hc
      case h_2 => rfl
  · have htake : (inner ++ '>' :: rest).takeWhile isElementChar = inner :=
      takeWhile_append_of_head? hinner (by simp [isElementChar])
    have hdrop : (inner ++ '>' :: rest).dropWhile isElementChar = '>' :: rest :=
      dropWhile_append_of_head? hinner (by simp [isElementChar])
    simp [takeTemplateArguments, htake, hdrop]

/-- What is taken as a type is one. -/
theorem takeType?_sound (h : takeType? s = some (type, rest)) : s = type ++ rest ∧ IsType type := by
  cases s with
  | nil => cases h
  | cons c cs =>
    rw [takeType?] at h
    split at h
    case isFalse => cases h
    case isTrue hc =>
      obtain ⟨hsplit, hargs⟩ := takeTemplateArguments_sound (cs.dropWhile isTypeChar)
      obtain ⟨rfl, rfl⟩ := by simpa using h
      refine ⟨?_, c, cs.takeWhile isTypeChar, _, rfl, hc, fun d hd ↦ List.mem_takeWhile_imp hd,
        hargs⟩
      rw [List.cons_append, List.append_assoc, ← hsplit, List.takeWhile_append_dropWhile]

/-- A type with template arguments is taken whole, and one without them if the text after it does
not go on with it. -/
theorem takeType?_append_arguments {c : Char} {cs arguments : List Char} (hc : isNameStart c)
    (hcs : ∀ d ∈ cs, isTypeChar d) (harguments : arguments = [] ∨ IsTemplateArguments arguments)
    (hrest : arguments = [] → EndsType rest) :
    takeType? (c :: cs ++ arguments ++ rest) = some (c :: cs ++ arguments, rest) := by
  -- behind the name stands the bracket of the template arguments, or the end of the type
  have hhead : ∀ d ∈ (arguments ++ rest).head?, isTypeChar d = false := by
    rcases harguments with rfl | ⟨inner, rfl, -⟩
    · exact fun d hd ↦ (hrest rfl d hd).1
    · intro d hd
      obtain rfl : '<' = d := by simpa using hd
      decide
  have htake := takeWhile_append_of_head? hcs hhead
  have hdrop := dropWhile_append_of_head? hcs hhead
  rw [List.cons_append, List.cons_append, List.append_assoc, takeType?, if_pos hc, htake, hdrop,
    takeTemplateArguments_append harguments hrest]
  rfl

/-- A type is taken whole if the text after it does not go on with it. -/
theorem takeType?_append (h : IsType type) (hrest : EndsType rest) :
    takeType? (type ++ rest) = some (type, rest) := by
  obtain ⟨c, cs, arguments, rfl, hc, hcs, harguments⟩ := h
  exact takeType?_append_arguments hc hcs harguments fun _ ↦ hrest

/-- A type begins like a name. -/
theorem IsType.exists_cons (h : IsType type) : ∃ c cs, type = c :: cs ∧ isNameStart c := by
  obtain ⟨c, cs, arguments, rfl, hc, -, -⟩ := h
  exact ⟨c, cs ++ arguments, rfl, hc⟩

/-! ### Names -/

theorem IsName.exists_cons (h : IsName name) : ∃ c cs, name = c :: cs ∧ isNameStart c := by
  obtain ⟨c, cs, rfl, hc, -⟩ := h
  exact ⟨c, cs, rfl, hc⟩

/-- A name has word characters only. -/
theorem IsName.isWord_of_mem (h : IsName name) {c : Char} (hc : c ∈ name) : isWord c := by
  obtain ⟨first, cs, rfl, hfirst, hcs⟩ := h
  rcases List.mem_cons.1 hc with rfl | hc
  · exact isWord_of_isNameStart hfirst
  · exact hcs c hc

/-- A name is a type without template arguments. -/
theorem IsName.isType (h : IsName name) : IsType name := by
  obtain ⟨c, cs, rfl, hc, hcs⟩ := h
  exact ⟨c, cs, [], by simp, hc, fun d hd ↦ isTypeChar_of_isWord (hcs d hd), .inl rfl⟩

/-- What is taken as a name is one. -/
theorem takeName?_sound (h : takeName? s = some (name, rest)) : s = name ++ rest ∧ IsName name := by
  cases s with
  | nil => cases h
  | cons c cs =>
    rw [takeName?] at h
    split at h
    case isFalse => cases h
    case isTrue hc =>
      obtain ⟨rfl, rfl⟩ := by simpa using h
      exact ⟨by simp, c, _, rfl, hc, fun d hd ↦ List.mem_takeWhile_imp hd⟩

/-- A name is taken whole if no word character follows it. -/
theorem takeName?_append (h : IsName name) (hrest : ∀ c ∈ rest.head?, isWord c = false) :
    takeName? (name ++ rest) = some (name, rest) := by
  obtain ⟨c, cs, rfl, hc, hcs⟩ := h
  rw [List.cons_append, takeName?, if_pos hc, takeWhile_append_of_head? hcs hrest,
    dropWhile_append_of_head? hcs hrest]

/-! ### Separators -/

/-- What is skipped as a separator is one. -/
theorem skipSeparator?_sound (h : skipSeparator? s = some rest) :
    ∃ separator, s = separator ++ rest ∧ IsSeparator separator := by
  obtain ⟨left, hleft, hs⟩ := exists_append_trimLeft s
  rw [skipSeparator?] at h
  split at h
  case h_1 => cases h
  case h_2 c after hafter =>
    rw [hafter] at hs
    split at h
    case isTrue hmark =>
      obtain rfl : trimLeft after = rest := by simpa using h
      obtain ⟨right, hright, hsplit⟩ := exists_append_trimLeft after
      refine ⟨left ++ c :: right, ?_, .inr ⟨left, c, right, rfl, hleft, hmark, hright⟩⟩
      rw [hs, List.append_assoc, List.cons_append, ← hsplit]
    case isFalse =>
      split at h
      case h_1 => cases h
      case h_2 b cs =>
        split at h
        case isFalse => cases h
        case isTrue hb =>
          obtain rfl : c :: after = rest := by simpa using h
          refine ⟨left, hs, .inl ⟨hleft, ?_⟩⟩
          rintro rfl
          -- without blanks in front the text would begin with `c`, which is none
          have hc := head?_trimLeft (b :: cs) c (by rw [hafter]; rfl)
          obtain rfl : b = c := (List.cons.inj hs).1
          exact absurd hb (by simp [hc])

/-- A separator is skipped whole in front of what begins like a name. -/
theorem skipSeparator?_append (h : IsSeparator separator) {c : Char} (hc : isNameStart c) :
    skipSeparator? (separator ++ c :: rest) = some (c :: rest) := by
  have hblank : ∀ d ∈ (c :: rest).head?, isBlank d = false := by
    simpa using isBlank_eq_false_of_isNameStart hc
  rcases h with ⟨hblanks, hne⟩ | ⟨left, mark, right, rfl, hleft, hmark, hright⟩
  · have htrim := trimLeft_append_of_head? hblanks hblank
    cases separator with
    | nil => exact absurd rfl hne
    | cons b bs =>
      rw [skipSeparator?, htrim]
      simp [isMark_eq_false_of_isNameStart hc, hblanks b (by simp)]
  · have hleft' : trimLeft (left ++ mark :: (right ++ c :: rest)) = mark :: (right ++ c :: rest) :=
      trimLeft_append_of_head? hleft (by simpa using isBlank_eq_false_of_isMark hmark)
    rw [List.append_assoc, List.cons_append, skipSeparator?, hleft']
    simp [hmark, trimLeft_append_of_head? hright hblank]

end BindingGlue.Signature
