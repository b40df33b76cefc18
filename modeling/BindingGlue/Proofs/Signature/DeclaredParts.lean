import BindingGlue.Proofs.Signature.ArgumentGrammar
import BindingGlue.Proofs.Signature.Reading

/-!
# What the parts of a list declare

A part of an argument list is read from its declaration alone, so a list may be replaced by the
declarations in it (`partsReadAs_map_declarationOf`). What a text between parentheses declares does
not depend on the blanks at its ends (`declarations_trim`), and a comma puts the declarations on its
two sides next to each other (`declarations_append_comma`).

Nothing comes of a part that is a lone `void` or has no name (`readPart_eq_none_iff`). What is put
in among others leaves what is read of these as it is, but for the names that were seen
(`partsReadAs_append_iff`). So further parts change nothing exactly if each of them is left out
(`PartsReadAs.insert_iff`), and one argument more needs a name that no other has
(`PartsReadAs.readParts_insert`).
-/

namespace BindingGlue.Signature

open Text

variable {catalogue : Catalogue} {line other text name : String} {seen seen' : List String}
  {arguments others : List Argument} {argument : Argument} {s blanks part : List Char}
  {parts before after inserted : List (List Char)}

/-! ### Declarations -/

theorem declarationOf_eq_trim (h : '=' ∉ part) : declarationOf part = trim part := by
  rw [declarationOf, List.takeWhile_eq_self_iff.2]
  exact fun c hc ↦ bne_iff_ne.2 fun heq ↦ h (heq ▸ hc)

/-- A default value is no part of the declaration, nor are the blanks in front of it. -/
theorem declarationOf_append_default (hpart : '=' ∉ part) (hblanks : IsBlanks blanks)
    (value : List Char) : declarationOf (part ++ blanks ++ '=' :: value) = declarationOf part := by
  have hequals : ∀ c ∈ part ++ blanks, (c != '=') = true := by
    intro c hc
    rw [bne_iff_ne]
    rintro rfl
    rcases List.mem_append.1 hc with hc | hc
    · exact hpart hc
    · exact absurd (hblanks _ hc) (by decide)
  rw [declarationOf_eq_trim hpart, declarationOf, takeWhile_append_of_head? hequals (by simp)]
  exact trim_right_blanks hblanks part

theorem declarationOf_blanks_append (hblanks : IsBlanks blanks) (part : List Char) :
    declarationOf (blanks ++ part) = declarationOf part := by
  have hequals : ∀ c ∈ blanks, (c != '=') = true := by
    intro c hc
    rw [bne_iff_ne]
    rintro rfl
    exact absurd (hblanks _ hc) (by decide)
  rw [declarationOf, List.takeWhile_append_of_pos hequals]
  exact trim_left_blanks hblanks _

theorem declarationOf_append_blanks (hblanks : IsBlanks blanks) (part : List Char) :
    declarationOf (part ++ blanks) = declarationOf part := by
  by_cases hequals : '=' ∈ part
  case pos => rw [declarationOf, takeWhile_append_of_mem hequals (by simp), declarationOf]
  case neg =>
    have hwhole : '=' ∉ part ++ blanks := by
      rw [List.mem_append, not_or]
      exact ⟨hequals, fun hc ↦ absurd (hblanks _ hc) (by decide)⟩
    rw [declarationOf_eq_trim hwhole, declarationOf_eq_trim hequals]
    exact trim_right_blanks hblanks part

/-- A declaration declares itself. -/
theorem declarationOf_declarationOf (part : List Char) :
    declarationOf (declarationOf part) = declarationOf part := by
  have hequals : '=' ∉ declarationOf part := by
    intro hmem
    have hc := List.mem_takeWhile_imp ((trim_isInfix _).subset hmem)
    exact absurd hc (by simp)
  rw [declarationOf_eq_trim hequals, declarationOf, trim_trim]

theorem readPart_declarationOf (catalogue : Catalogue) (line : String) (part : List Char) :
    readPart catalogue line (declarationOf part) = readPart catalogue line part := by
  simp only [readPart, declarationOf_declarationOf]

/-- Parts read like their declarations. -/
theorem partsReadAs_map_declarationOf :
    PartsReadAs catalogue line seen (parts.map declarationOf) arguments ↔
      PartsReadAs catalogue line seen parts arguments := by
  simp only [PartsReadAs, List.forall₂_map_left_iff, readPart_declarationOf]

theorem readParts_map_declarationOf (catalogue : Catalogue) (line : String) (seen : List String)
    (parts : List (List Char)) :
    readParts catalogue line seen (parts.map declarationOf) =
      readParts catalogue line seen parts := by
  induction parts generalizing seen with
  | nil => rfl
  | cons part parts ih => simp only [List.map_cons, readParts, readPart_declarationOf, ih]

/-! ### Declarations of a list -/

/-- What the parts of a text declare, cut at its commas. -/
def declarations (s : List Char) : List (List Char) :=
  (s.splitOn ',').map declarationOf

theorem declarations_of_not_mem (h : ',' ∉ s) : declarations s = [declarationOf s] := by
  rw [declarations, List.splitOn_eq_singleton h, List.map_singleton]

theorem declarations_append_comma (left right : List Char) :
    declarations (left ++ ',' :: right) = declarations left ++ declarations right := by
  rw [declarations, List.splitOn_append_cons_self, List.map_append]
  rfl

theorem not_mem_of_isBlanks (h : IsBlanks blanks) : ',' ∉ blanks :=
  fun hc ↦ absurd (h _ hc) (by decide)

theorem declarations_blanks_append (hblanks : IsBlanks blanks) (s : List Char) :
    declarations (blanks ++ s) = declarations s := by
  by_cases hcomma : ',' ∈ s
  case pos =>
    obtain ⟨front, back, rfl, hfront⟩ := List.eq_append_cons_of_mem hcomma
    have hwhole : ',' ∉ blanks ++ front := by simp [not_mem_of_isBlanks hblanks, hfront]
    rw [← List.append_assoc, declarations_append_comma, declarations_append_comma,
      declarations_of_not_mem hwhole, declarations_of_not_mem hfront,
      declarationOf_blanks_append hblanks]
  case neg =>
    have hwhole : ',' ∉ blanks ++ s := by simp [not_mem_of_isBlanks hblanks, hcomma]
    rw [declarations_of_not_mem hwhole, declarations_of_not_mem hcomma,
      declarationOf_blanks_append hblanks]

theorem declarations_append_blanks (hblanks : IsBlanks blanks) (s : List Char) :
    declarations (s ++ blanks) = declarations s := by
  by_cases hcomma : ',' ∈ s
  case pos =>
    -- the blanks go with what stands behind the last comma
    obtain ⟨back, front, hreverse, hback⟩ :=
      List.eq_append_cons_of_mem (List.mem_reverse.2 hcomma)
    obtain rfl : s = front.reverse ++ ',' :: back.reverse := by
      rw [← List.reverse_reverse s, hreverse]
      simp
    have hback : ',' ∉ back.reverse := by simpa using hback
    have hwhole : ',' ∉ back.reverse ++ blanks := by simp [not_mem_of_isBlanks hblanks, hback]
    rw [List.append_assoc, List.cons_append, declarations_append_comma, declarations_append_comma,
      declarations_of_not_mem hwhole, declarations_of_not_mem hback,
      declarationOf_append_blanks hblanks]
  case neg =>
    have hwhole : ',' ∉ s ++ blanks := by simp [not_mem_of_isBlanks hblanks, hcomma]
    rw [declarations_of_not_mem hwhole, declarations_of_not_mem hcomma,
      declarationOf_append_blanks hblanks]

/-- Blanks at the ends of a list change nothing in what it declares. -/
theorem declarations_trim (s : List Char) : declarations (trim s) = declarations s := by
  obtain ⟨left, right, hleft, hright, hs⟩ := exists_append_trim_append s
  rw [← declarations_blanks_append hleft, ← declarations_append_blanks hright, ← hs]

/-- A text between parentheses with parts to read, and what it declares. -/
theorem map_declarationOf_argumentParts (h : argumentParts text ≠ []) :
    (argumentParts text).map declarationOf = declarations text.toList := by
  rw [← declarations_trim, declarations]
  simp only [argumentParts] at h ⊢
  split
  case isTrue hnone =>
    rw [if_pos hnone] at h
    exact absurd rfl h
  case isFalse => rfl

/-- A text with an equals sign in it is neither blank nor a lone `void`. -/
theorem argumentParts_ne_nil (h : '=' ∈ text.toList) : argumentParts text ≠ [] := by
  have hmem : '=' ∈ trim text.toList := mem_trim h (by decide)
  have hvoid : trim text.toList ≠ "void".toList := by
    intro heq
    rw [heq, String.toList_ofList] at hmem
    exact absurd hmem (by decide)
  have hempty : (trim text.toList).isEmpty = false := by simpa using List.ne_nil_of_mem hmem
  simp only [argumentParts, hempty, decide_eq_false hvoid]
  exact List.splitOn_ne_nil ',' _

/-- A list that is not blank is read by its parts as they stand between the commas. -/
theorem readParts_argumentParts (catalogue : Catalogue) (line : String)
    (h : trim text.toList ≠ []) :
    readParts catalogue line [] (argumentParts text) =
      readParts catalogue line [] (text.toList.splitOn ',') := by
  by_cases hparts : argumentParts text = []
  case neg =>
    rw [← readParts_map_declarationOf, map_declarationOf_argumentParts hparts, declarations,
      readParts_map_declarationOf]
  case pos =>
    have hempty : (trim text.toList).isEmpty = false := by simpa using h
    have hvoid : trim text.toList = "void".toList := by
      by_contra hne
      simp only [argumentParts, hempty, decide_eq_false hne] at hparts
      exact List.splitOn_ne_nil ',' _ hparts
    have hnotMem : ∀ c ∈ [',', '='], c ∉ text.toList := by
      intro c hc hmem
      have hc : isBlank c = false ∧ c ∉ "void".toList := by
        rcases List.mem_pair.1 hc with rfl | rfl
        all_goals decide
      have hmem := mem_trim hmem hc.1
      rw [hvoid] at hmem
      exact hc.2 hmem
    have hpart : readPart catalogue line text.toList = .ok none := by
      refine readPart_of_void catalogue line ?_
      rw [declarationOf_eq_trim (hnotMem '=' (by simp)), hvoid]
    rw [hparts, List.splitOn_eq_singleton (hnotMem ',' (by simp)), readParts_cons_of_none hpart]

/-! ### Parts that are left out -/

/-- A part that an argument list is read without: a lone `void`, or a type that can be passed with
marks behind it and no name. -/
def IsLeftOut (catalogue : Catalogue) (part : List Char) : Prop :=
  declarationOf part = "void".toList ∨
    ∃ type, FitsLongest type "" (declarationOf part) ∧ catalogue.argumentType? type ≠ none

theorem lookUp_eq_none_iff {type name : String} :
    lookUp catalogue line type name = .ok none ↔
      catalogue.argumentType? type ≠ none ∧ name = "" := by
  rw [lookUp]
  cases htype : catalogue.argumentType? type with
  | none => simp
  | some entry =>
    by_cases hname : name = ""
    · simp [hname]
    · simp [hname]

theorem readPart_eq_none_iff :
    readPart catalogue line part = .ok none ↔ IsLeftOut catalogue part := by
  by_cases hvoid : declarationOf part = "void".toList
  case pos => exact ⟨fun _ ↦ .inl hvoid, fun _ ↦ readPart_of_void catalogue line hvoid⟩
  case neg =>
    constructor
    · intro hread
      by_cases hfits : ∃ type name, ArgumentFits type name (declarationOf part)
      case neg =>
        rw [readPart_of_not_fits catalogue line hvoid hfits] at hread
        cases hread
      case pos =>
        obtain ⟨type, name, hfits⟩ := hfits
        obtain ⟨longest, hlongest, -⟩ := hfits.exists_readArgument?
        have hlongest := readArgument?_eq_some_iff.1 hlongest
        rw [readPart_of_fitsLongest catalogue line hvoid hlongest, lookUp_eq_none_iff] at hread
        obtain ⟨htype, hname⟩ := hread
        rw [hname] at hlongest
        exact .inr ⟨_, hlongest, htype⟩
    · rintro (h | ⟨type, hlongest, htype⟩)
      · exact absurd h hvoid
      · rw [readPart_of_fitsLongest catalogue line hvoid hlongest]
        exact lookUp_eq_none_iff.2 ⟨htype, rfl⟩

/-! ### Parts among others -/

theorem PartsReadAs.inLine (h : PartsReadAs catalogue line seen parts arguments) (other : String) :
    PartsReadAs catalogue other seen parts arguments := by
  rw [← readParts_eq_ok_iff] at h ⊢
  rw [readParts_inLine catalogue line other, h]
  rfl

theorem partsReadAs_iff_map :
    PartsReadAs catalogue line seen parts arguments ↔
      ∃ outcomes : List (Option Argument),
        parts.map (readPart catalogue line) = outcomes.map .ok ∧
        arguments = outcomes.reduceOption ∧ (arguments.map (·.name)).Nodup ∧
        ∀ argument ∈ arguments, argument.name ∉ seen := by
  simp only [PartsReadAs, ← List.forall₂_eq_eq_eq, List.forall₂_map_left_iff,
    List.forall₂_map_right_iff]

/-- Parts read as arguments in one way, whatever names are seen in front of them. -/
theorem PartsReadAs.eq (h : PartsReadAs catalogue line seen parts arguments)
    (h' : PartsReadAs catalogue line seen' parts others) : arguments = others := by
  have hok : Function.Injective (Except.ok : Option Argument → Except Refusal _) :=
    fun _ _ heq ↦ Except.ok.inj heq
  obtain ⟨outcomes, hall, rfl, -⟩ := partsReadAs_iff_map.1 h
  obtain ⟨outcomes', hall', rfl, -⟩ := partsReadAs_iff_map.1 h'
  rw [hok.list_map (hall.symm.trans hall')]

/-- Parts behind others read as arguments if their names are new. -/
theorem partsReadAs_append_iff :
    PartsReadAs catalogue line seen (before ++ after) arguments ↔
      ∃ left right, arguments = left ++ right ∧ PartsReadAs catalogue line seen before left ∧
        PartsReadAs catalogue line ((left.map (·.name)).reverse ++ seen) after right := by
  constructor
  · intro h
    have hread := readParts_eq_ok_iff.2 h
    rcases hbefore : readParts catalogue line seen before with refusal | left
    · obtain ⟨front, culprit, rest, earlier, rfl, hfault⟩ := readParts_eq_error_iff.1 hbefore
      have hrefused : readParts catalogue line seen
          ((front ++ culprit :: rest) ++ after) = .error refusal :=
        readParts_eq_error_iff.2 ⟨front, culprit, rest ++ after, earlier, by simp, hfault⟩
      rw [hread] at hrefused
      cases hrefused
    · have hleft := readParts_eq_ok_iff.1 hbefore
      rw [hleft.readParts_append] at hread
      rcases hafter : readParts catalogue line ((left.map (·.name)).reverse ++ seen) after with
        refusal | right
      · rw [hafter] at hread
        cases hread
      · rw [hafter] at hread
        exact ⟨left, right, (Except.ok.inj hread).symm, hleft, readParts_eq_ok_iff.1 hafter⟩
  · rintro ⟨left, right, rfl, hleft, hright⟩
    rw [← readParts_eq_ok_iff, hleft.readParts_append, readParts_eq_ok_iff.2 hright]
    rfl

/-- Nothing is read of parts of which each is left out. -/
theorem partsReadAs_empty_iff :
    PartsReadAs catalogue line seen parts [] ↔
      ∀ part ∈ parts, readPart catalogue line part = .ok none := by
  rw [partsReadAs_iff_map]
  constructor
  · rintro ⟨outcomes, hall, heq, -⟩ part hpart
    obtain ⟨n, rfl⟩ := (List.reduceOption_eq_nil_iff _).1 heq.symm
    have hmem : readPart catalogue line part ∈ (List.replicate n none).map Except.ok :=
      hall ▸ List.mem_map_of_mem hpart
    rw [List.map_replicate] at hmem
    exact List.eq_of_mem_replicate hmem
  · intro hnone
    refine ⟨List.replicate parts.length none, ?_, by simp, by simp, by simp⟩
    rw [List.map_replicate, List.map_eq_replicate_iff.2 hnone]

/-- Parts that are put in among others change nothing exactly if each of them is left out. -/
theorem PartsReadAs.insert_iff (h : PartsReadAs catalogue line seen (before ++ after) arguments) :
    PartsReadAs catalogue line seen (before ++ (inserted ++ after)) arguments ↔
      ∀ part ∈ inserted, readPart catalogue line part = .ok none := by
  obtain ⟨left, right, rfl, hleft, hright⟩ := partsReadAs_append_iff.1 h
  constructor
  · intro hinserted
    obtain ⟨left', rest, heq, hleft', hrest⟩ := partsReadAs_append_iff.1 hinserted
    obtain ⟨middle, right', rfl, hmiddle, hright'⟩ := partsReadAs_append_iff.1 hrest
    -- the parts around those put in read as before
    obtain rfl := hleft.eq hleft'
    obtain rfl := hright.eq hright'
    obtain rfl : middle = [] := by simpa using heq
    exact partsReadAs_empty_iff.1 hmiddle
  · intro hnone
    have hrest := partsReadAs_append_iff.2
      ⟨[], right, rfl, partsReadAs_empty_iff.2 hnone, hright⟩
    exact partsReadAs_append_iff.2 ⟨left, right, rfl, hleft, hrest⟩

/-! ### An argument among others -/

/-- Behind an argument with one of their names, the first fault of the parts is that name. -/
theorem PartsReadAs.readParts_of_mem (h : PartsReadAs catalogue line seen parts arguments)
    (hname : name ∈ arguments.map (·.name)) :
    readParts catalogue line (name :: seen) parts =
      .error (.grammarMismatch (.duplicateArgument name) line) := by
  rcases readParts_cases catalogue line (name :: seen) parts with
    ⟨others, -, hothers⟩ | ⟨refusal, hread, front, culprit, rest, earlier, rfl, hfront, hfault⟩
  · obtain rfl : arguments = others := h.eq hothers
    obtain ⟨outcomes, -, -, -, hnew⟩ := hothers
    obtain ⟨argument, hargument, rfl⟩ := List.mem_map.1 hname
    exact absurd List.mem_cons_self (hnew argument hargument)
  · obtain ⟨left, right, rfl, hleft, outcomes, hall, rfl, -, hnew⟩ := partsReadAs_append_iff.1 h
    obtain rfl : earlier = left := hfront.eq hleft
    obtain _ | ⟨hpart, -⟩ := hall
    rcases hfault with hfault | ⟨argument, hargument, hmem, rfl⟩
    · rw [hpart] at hfault
      cases hfault
    · -- the name is new but for the one that was put in front
      obtain rfl := Except.ok.inj (hpart.symm.trans hargument)
      have hfresh := hnew argument (by rw [List.reduceOption_cons_of_some]; exact .head _)
      rw [List.mem_append, List.mem_reverse, not_or] at hfresh
      rw [List.cons_append, List.mem_cons, List.mem_append] at hmem
      obtain rfl : argument.name = name := hmem.resolve_right (not_or.2 hfresh.symm)
      exact hread

/-- One argument more, put in among parts that read as arguments: none of them may have its name. -/
theorem PartsReadAs.readParts_insert
    (h : PartsReadAs catalogue line [] (before ++ after) arguments)
    (hpart : readPart catalogue line part = .ok (some argument)) :
    (argument.name ∉ arguments.map (·.name) →
      ∃ left right, arguments = left ++ right ∧ PartsReadAs catalogue line [] before left ∧
        readParts catalogue line [] (before ++ part :: after) = .ok (left ++ argument :: right)) ∧
    (argument.name ∈ arguments.map (·.name) →
      readParts catalogue line [] (before ++ part :: after) =
        .error (.grammarMismatch (.duplicateArgument argument.name) line)) := by
  obtain ⟨left, right, rfl, hleft, hright⟩ := partsReadAs_append_iff.1 h
  rw [hleft.readParts_append, List.append_nil, List.map_append, List.mem_append]
  rw [List.append_nil] at hright
  constructor
  · intro hname
    rw [not_or] at hname
    obtain ⟨outcomes, hall, heq, hnodup, hnew⟩ := hright
    have hright : PartsReadAs catalogue line (argument.name :: (left.map (·.name)).reverse) after
        right := by
      refine ⟨outcomes, hall, heq, hnodup, fun other hother hmem ↦ ?_⟩
      rcases List.mem_cons.1 hmem with hmem | hmem
      · exact hname.2 (hmem ▸ List.mem_map_of_mem hother)
      · exact hnew other hother hmem
    refine ⟨left, right, rfl, hleft, ?_⟩
    rw [readParts_cons_of_not_mem hpart (by simpa using hname.1), readParts_eq_ok_iff.2 hright]
    rfl
  · intro hname
    by_cases hearlier : argument.name ∈ left.map (·.name)
    · rw [readParts_cons_of_mem hpart (List.mem_reverse.2 hearlier)]
      rfl
    · rw [readParts_cons_of_not_mem hpart (fun hmem ↦ hearlier (List.mem_reverse.1 hmem)),
        hright.readParts_of_mem (hname.resolve_left hearlier)]
      rfl

/-- The list of the parts is refused like the part if the others read as arguments. -/
theorem PartsReadAs.readParts_insert_error {refusal : Refusal}
    (h : PartsReadAs catalogue line [] (before ++ after) arguments)
    (hpart : readPart catalogue line part = .error refusal) :
    readParts catalogue line [] (before ++ part :: after) = .error refusal := by
  obtain ⟨left, right, -, hleft, -⟩ := partsReadAs_append_iff.1 h
  exact readParts_eq_error_iff.2 ⟨before, part, after, left, rfl, hleft, .inl hpart⟩

end BindingGlue.Signature
