import BindingGlue.Proofs.Signature.Accepted
import BindingGlue.Proofs.Signature.DeclaredParts
import BindingGlue.Proofs.Signature.Enclosed
import BindingGlue.Proofs.Text.Lines

/-!
# Default values

A default value is meant to be ignored, and it is as far as its text reaches the place where it is
cut off. Two cuts come before that one: the list of a line ends at the first parenthesis behind the
one that opens it, and the list falls into parts at every comma. So a value with a parenthesis in it
makes the line into none, and a value with a comma in it leaves parts of its own in the list, which
change nothing exactly if each of them is left out (`default_ignored_iff`). Braces and angle
brackets around a comma keep nothing together.

The place of a default value is behind the name of an argument (`NamePlace`), and around it the list
declares the same whatever stands there (`ListPlace.exists_declarations_list`).
-/

namespace BindingGlue

open Text BindingGlue.Types

namespace Signature

variable {catalogue : Catalogue} {argument : Argument} {signature : Signature} {line text : String}
  {s front back : List Char}

/-! ### Brackets -/

/-- Whether every bracket of a text is closed, with `depth` of them open in front: none closes that
was not opened, and in the end none is open. -/
def closes (left right : Char) : Nat → List Char → Bool
  | depth, [] => depth == 0
  | depth, c :: cs =>
    if c = left then closes left right (depth + 1) cs
    else if c = right then 0 < depth && closes left right (depth - 1) cs
    else closes left right depth cs

/-- The first parenthesis of a text in which they are closed opens. -/
theorem closes_cases (h : closes '(' ')' 0 s) :
    (∀ c ∈ s, isArgumentChar c) ∨
      ∃ front back, s = front ++ '(' :: back ∧ ∀ c ∈ front, isArgumentChar c := by
  induction s with
  | nil => simp
  | cons c cs ih =>
    rw [closes] at h
    split at h
    case isTrue hopen => exact .inr ⟨[], cs, by simp [hopen], by simp⟩
    case isFalse hopen =>
      split at h
      case isTrue => simp at h
      case isFalse hclose =>
        have hc : isArgumentChar c := by simp [isArgumentChar, hopen, hclose]
        rcases ih h with hcs | ⟨front, back, rfl, hfront⟩
        · exact .inl (List.forall_mem_cons.2 ⟨hc, hcs⟩)
        · exact .inr ⟨c :: front, back, rfl, List.forall_mem_cons.2 ⟨hc, hfront⟩⟩

/-! ### Behind a name -/

/-- The place behind the name of an argument in a list. The argument stands between two cuts of the
list or at an end of it, and has no default value yet. -/
structure ListPlace (catalogue : Catalogue) (line : String) (argument : Argument) where
  /-- The list up to the argument. -/
  earlier : List Char
  /-- The argument up to the end of its name. -/
  front : List Char
  /-- The blanks behind its name. -/
  back : List Char
  /-- The list behind the argument. -/
  later : List Char
  earlier_eq : earlier = [] ∨ ∃ others, earlier = others ++ [',']
  comma_notMem : ',' ∉ front
  equals_notMem : '=' ∉ front
  readPart_front : readPart catalogue line front = .ok (some argument)
  name_suffix : argument.name.toList <:+ front
  isBlanks_back : IsBlanks back
  later_eq : later = [] ∨ ∃ others, later = ',' :: others

/-- The list with a text at the place. -/
def ListPlace.list (place : ListPlace catalogue line argument) (inserted : List Char) : List Char :=
  place.earlier ++ (place.front ++ inserted ++ place.back ++ place.later)

/-- The place behind the name of an argument in a line. No parenthesis stands in front of the list
or in it, so that the list is the one that is read. -/
structure NamePlace (catalogue : Catalogue) (line : String) (argument : Argument) extends
    ListPlace catalogue line argument where
  /-- The line up to its list. -/
  opening : List Char
  /-- The line behind its list. -/
  closing : List Char
  isArgumentChar_opening : ∀ c ∈ opening, isArgumentChar c
  isArgumentChar_list : ∀ c ∈ toListPlace.list [], isArgumentChar c

/-- The line with a text at the place. -/
def NamePlace.fill (place : NamePlace catalogue line argument) (inserted : String) : String :=
  String.ofList (place.opening ++ '(' :: (place.list inserted.toList ++ ')' :: place.closing))

theorem NamePlace.toList_fill (place : NamePlace catalogue line argument) (inserted : String) :
    (place.fill inserted).toList =
      place.opening ++ '(' :: (place.list inserted.toList ++ ')' :: place.closing) := by
  rw [fill, String.toList_ofList]

/-- A text without parentheses leaves the list without any. -/
theorem NamePlace.isArgumentChar_of_mem_list (place : NamePlace catalogue line argument)
    {inserted : List Char} (h : ∀ c ∈ inserted, isArgumentChar c) :
    ∀ c ∈ place.list inserted, isArgumentChar c := by
  have hlist := place.isArgumentChar_list
  simp only [ListPlace.list, List.forall_mem_append] at hlist ⊢
  obtain ⟨hearlier, ⟨⟨hfront, -⟩, hback⟩, hlater⟩ := hlist
  exact ⟨hearlier, ⟨⟨hfront, h⟩, hback⟩, hlater⟩

namespace ListPlace

variable (place : ListPlace catalogue line argument)

/-- Around the argument a list declares the same, whatever stands at the place. -/
theorem exists_declarations_list : ∃ before after, ∀ inserted,
    declarations (place.list inserted) =
      before ++ (declarations (place.front ++ inserted ++ place.back) ++ after) := by
  have hlater : ∃ after, ∀ s, declarations (s ++ place.later) = declarations s ++ after := by
    rcases place.later_eq with hlater | ⟨others, hlater⟩
    · exact ⟨[], fun s ↦ by rw [hlater, List.append_nil, List.append_nil]⟩
    · exact ⟨declarations others, fun s ↦ by rw [hlater, declarations_append_comma]⟩
  obtain ⟨after, hafter⟩ := hlater
  rcases place.earlier_eq with hearlier | ⟨others, hearlier⟩
  · refine ⟨[], after, fun inserted ↦ ?_⟩
    rw [list, hearlier, List.nil_append, List.nil_append, hafter]
  · refine ⟨declarations others, after, fun inserted ↦ ?_⟩
    rw [list, hearlier, List.append_assoc, List.singleton_append, declarations_append_comma, hafter]

/-- A default value goes as far as its first comma, and what stands behind its commas is declared
like any other part. -/
theorem declarations_default (value : List Char) :
    declarations (place.front ++ (" = ".toList ++ value) ++ place.back) =
      declarationOf place.front :: (value.splitOn ',').tail.map declarationOf := by
  have hvalue : place.front ++ (" = ".toList ++ value) =
      place.front ++ [' '] ++ '=' :: ' ' :: value := by
    simp
  have hfirst : ∀ first, ',' ∉ first →
      declarations (place.front ++ [' '] ++ '=' :: ' ' :: first) = [declarationOf place.front] := by
    intro first hfirst
    rw [declarations_of_not_mem (by simp [place.comma_notMem, hfirst]),
      declarationOf_append_default place.equals_notMem isBlanks_space]
  rw [declarations_append_blanks place.isBlanks_back, hvalue]
  by_cases hmem : ',' ∈ value
  case neg =>
    rw [hfirst value hmem, List.splitOn_eq_singleton hmem]
    rfl
  case pos =>
    obtain ⟨first, others, rfl, hnone⟩ := List.eq_append_cons_of_mem hmem
    have hcut : place.front ++ [' '] ++ '=' :: ' ' :: (first ++ ',' :: others) =
        place.front ++ [' '] ++ '=' :: ' ' :: first ++ ',' :: others := by
      simp
    rw [hcut, declarations_append_comma, hfirst first hnone,
      List.splitOn_append_cons_self_of_not_mem hnone]
    rfl

theorem declarations_front :
    declarations (place.front ++ [] ++ place.back) = [declarationOf place.front] := by
  rw [declarations_append_blanks place.isBlanks_back, List.append_nil,
    declarations_of_not_mem place.comma_notMem]

end ListPlace

/-! ### Default values -/

/-- In a list that is read, every argument without a default value has a place behind its name. -/
theorem PartsReadAs.exists_listPlace {list : String} {arguments : List Argument}
    (h : PartsReadAs catalogue line [] (argumentParts list) arguments)
    (hargument : argument ∈ arguments) (hequals : '=' ∉ list.toList) :
    ∃ place : ListPlace catalogue line argument, place.list [] = list.toList := by
  obtain ⟨part, hpart, hread⟩ := h.exists_part hargument
  -- the part is trimmed at the ends of the list, and the piece that it comes from is not
  have hdeclared : declarationOf part ∈ declarations list.toList := by
    rw [← map_declarationOf_argumentParts (List.ne_nil_of_mem hpart)]
    exact List.mem_map_of_mem hpart
  obtain ⟨piece, hpiece, hsame⟩ := List.mem_map.1 hdeclared
  rw [← readPart_declarationOf, ← hsame, readPart_declarationOf] at hread
  obtain ⟨earlier, later, hlist, hearlier, hlater⟩ := exists_append_of_mem_splitOn hpiece
  have hcomma : ',' ∉ piece := by
    rw [List.splitOn_eq_splitOnP] at hpiece
    exact fun hmem ↦ absurd (eq_false_of_mem_splitOnP hpiece _ hmem) (by decide)
  have hequals : '=' ∉ piece := fun hmem ↦ hequals (by simp [hlist, hmem])
  obtain ⟨left, back, hleft, hback, hsplit⟩ := exists_append_trim_append piece
  obtain ⟨spelling, hargument, -, -⟩ := exists_of_readPart_eq_some hread
  obtain ⟨constant, isConst, separator, hfits, -⟩ := readArgument?_sound hargument
  rw [declarationOf_eq_trim hequals] at hfits
  rw [← readPart_declarationOf, hsplit, declarationOf_append_blanks hback,
    readPart_declarationOf] at hread
  refine ⟨{
    earlier, back, later
    front := left ++ trim piece
    earlier_eq := hearlier
    comma_notMem := fun hmem ↦ hcomma (hsplit ▸ List.mem_append_left _ hmem)
    equals_notMem := fun hmem ↦ hequals (hsplit ▸ List.mem_append_left _ hmem)
    readPart_front := hread
    name_suffix := List.suffix_append_of_suffix ⟨_, hfits.symm⟩
    isBlanks_back := hback
    later_eq := hlater }, ?_⟩
  show earlier ++ (left ++ trim piece ++ [] ++ back ++ later) = list.toList
  rw [List.append_nil, ← hsplit, hlist, List.append_assoc]

/-- In a line that is read, every argument has a place behind its name. -/
theorem exists_namePlace (hread : read catalogue text = .ok signature)
    (hargument : argument ∈ signature.arguments) (hequals : '=' ∉ text.toList) :
    ∃ place : NamePlace catalogue signature.line argument, place.fill "" = text := by
  obtain ⟨parts, hfits, -⟩ := exists_fits_of_read hread
  obtain ⟨-, -, hparts, -, hline⟩ := (read_eq_ok_iff_of_fits hfits).1 hread
  obtain ⟨opening, closing, htext, hopening, hlist, -⟩ := hfits.exists_opening_of_trim
  rw [← hline] at hparts
  have hwithin : '=' ∉ parts.arguments.toList := fun hmem ↦ hequals (by simp [htext, hmem])
  obtain ⟨place, hplace⟩ := hparts.exists_listPlace hargument hwithin
  rw [← hplace] at htext hlist
  refine ⟨{
    place with
    opening, closing
    isArgumentChar_opening := hopening
    isArgumentChar_list := hlist }, ?_⟩
  apply String.toList_injective
  rw [NamePlace.toList_fill, htext]
  simp

/-- The list that is read from a line is the one around the place, and with a text without
parentheses at the place it is that list with the text. -/
theorem NamePlace.exists_fits (place : NamePlace catalogue line argument)
    (hfill : place.fill "" = text) (hread : read catalogue text = .ok signature) :
    ∃ parts : LineParts, parts.Fits (trim text.toList) ∧ parts.arguments.toList = place.list [] ∧
      ∀ inserted : String, (∀ c ∈ inserted.toList, isArgumentChar c) →
        LineParts.Fits { parts with arguments := String.ofList (place.list inserted.toList) }
          (trim (place.fill inserted).toList) := by
  obtain ⟨parts, hfits, -⟩ := exists_fits_of_read hread
  obtain ⟨opening, closing, htext, hopening, hlist, hnew⟩ := hfits.exists_opening_of_trim
  rw [← hfill, toList_fill, String.toList_empty] at htext
  -- the list stands between the same two parentheses
  obtain ⟨rfl, -, hrest⟩ :=
    append_cons_inj_of_run place.isArgumentChar_opening hopening (by decide) (by decide) htext
  obtain ⟨heq, -, rfl⟩ :=
    append_cons_inj_of_run place.isArgumentChar_list hlist (by decide) (by decide) hrest
  refine ⟨parts, hfits, heq.symm, fun inserted hinserted ↦ ?_⟩
  rw [toList_fill]
  exact hnew _ (place.isArgumentChar_of_mem_list hinserted)

/-- With a parenthesis that opens at the place, there is no line. -/
theorem NamePlace.not_fits_fill (place : NamePlace catalogue line argument) {inserted : String}
    (hinserted : inserted.toList = front ++ '(' :: back) (hfront : ∀ c ∈ front, isArgumentChar c) :
    ¬ ∃ parts : LineParts, parts.Fits (trim (place.fill inserted).toList) := by
  have hlist : place.list inserted.toList ++ ')' :: place.closing =
      place.earlier ++ (place.front ++ front) ++
        '(' :: (back ++ place.back ++ place.later ++ ')' :: place.closing) := by
    simp [ListPlace.list, hinserted]
  rw [toList_fill, hlist]
  refine not_fits_of_open place.isArgumentChar_opening ?_
  have hplace := place.isArgumentChar_list
  simp only [ListPlace.list, List.forall_mem_append] at hplace ⊢
  obtain ⟨hearlier, ⟨⟨hname, -⟩, -⟩, -⟩ := hplace
  exact ⟨hearlier, hname, hfront⟩

/-- With a default value a list reads as the same arguments exactly if what stands behind the commas
of the value is left out. -/
theorem ListPlace.partsReadAs_default_iff (place : ListPlace catalogue line argument)
    {list : String} {arguments : List Argument} (hplace : place.list [] = list.toList)
    (h : PartsReadAs catalogue line [] (argumentParts list) arguments)
    (hargument : argument ∈ arguments) (other : String) (value : List Char) :
    PartsReadAs catalogue other []
        (argumentParts (String.ofList (place.list (" = ".toList ++ value)))) arguments ↔
      ∀ part ∈ (value.splitOn ',').tail, IsLeftOut catalogue part := by
  obtain ⟨before, after, hlist⟩ := place.exists_declarations_list
  have hparts : argumentParts list ≠ [] := by
    obtain ⟨part, hpart, -⟩ := h.exists_part hargument
    exact List.ne_nil_of_mem hpart
  have hequals : '=' ∈ (String.ofList (place.list (" = ".toList ++ value))).toList := by
    simp [ListPlace.list]
  -- the old list declares the argument between what is around it
  have hold := partsReadAs_map_declarationOf.2 (h.inLine other)
  rw [map_declarationOf_argumentParts hparts, ← hplace, hlist, place.declarations_front,
    ← List.append_assoc] at hold
  -- and the new one declares what stands behind the commas in between
  rw [← partsReadAs_map_declarationOf,
    map_declarationOf_argumentParts (argumentParts_ne_nil hequals), String.toList_ofList, hlist,
    place.declarations_default, ← List.singleton_append, List.append_assoc, ← List.append_assoc,
    hold.insert_iff, List.forall_mem_map]
  simp only [readPart_declarationOf, readPart_eq_none_iff]

/-- **Which default values are ignored.** Behind the name of every argument of a line without equals
signs there is a place for a default value. With a value in which the parentheses are closed, the
line has the same signature exactly if no parenthesis opens in the value and what stands behind each
of its commas is left out of an argument list. -/
theorem default_ignored_iff (hread : read catalogue text = .ok signature)
    (hargument : argument ∈ signature.arguments) :
    ('=' ∉ text.toList →
      ∃ place : NamePlace catalogue signature.line argument, place.fill "" = text) ∧
    ∀ place : NamePlace catalogue signature.line argument, place.fill "" = text →
      ∀ value : String, closes '(' ')' 0 value.toList →
      (read catalogue (place.fill (" = " ++ value)) = .ok { signature with
          line := String.ofList (trim (place.fill (" = " ++ value)).toList) } ↔
        '(' ∉ value.toList ∧
          ∀ part ∈ (value.toList.splitOn ',').tail, IsLeftOut catalogue part) := by
  refine ⟨exists_namePlace hread hargument, fun place hfill value hcloses ↦ ?_⟩
  have hequals : ∀ c ∈ " = ".toList, isArgumentChar c := List.all_eq_true.1 (by decide)
  rcases closes_cases hcloses with hvalue | ⟨before, after, hvalue, hbefore⟩
  case inr =>
    -- a parenthesis that opens in the list ends the line
    have hopen : '(' ∈ value.toList := by simp [hvalue]
    have hinserted : (" = " ++ value).toList = " = ".toList ++ before ++ '(' :: after := by
      rw [String.toList_append, hvalue, List.append_assoc]
    have hfront : ∀ c ∈ " = ".toList ++ before, isArgumentChar c :=
      List.forall_mem_append.2 ⟨hequals, hbefore⟩
    rw [read_of_not_fits (place.not_fits_fill hinserted hfront)]
    simp [hopen]
  case inl =>
    have hopen : '(' ∉ value.toList := fun hmem ↦ absurd (hvalue _ hmem) (by decide)
    have hdefault : ∀ c ∈ (" = " ++ value).toList, isArgumentChar c := by
      rw [String.toList_append, List.forall_mem_append]
      exact ⟨hequals, hvalue⟩
    obtain ⟨parts, hfits, hlist, hnew⟩ := place.exists_fits hfill hread
    obtain ⟨hname, htype, harguments, hvirtual, hline⟩ := (read_eq_ok_iff_of_fits hfits).1 hread
    rw [← hline] at harguments
    have hparts := place.partsReadAs_default_iff hlist.symm harguments hargument
      (String.ofList (trim (place.fill (" = " ++ value)).toList)) value.toList
    rw [read_eq_ok_iff_of_fits (hnew _ hdefault), String.toList_append, ← hparts]
    simp only [hname, htype, hvirtual, true_and, and_true, hopen, not_false_iff]

/-- A size that is passed. -/
def sized : Argument where
  type := Vocabulary.valueObject "QSize"
  name := "size"

/-- A method that takes a size. -/
def resized : Signature where
  name := "resize"
  resultType := Vocabulary.void
  arguments := [sized]
  line := "// TODO: void resize(QSize size)"

/-- The place behind its only argument. -/
def resizedPlace : NamePlace Catalogue.standard resized.line sized where
  opening := "// TODO: void resize".toList
  earlier := []
  front := "QSize size".toList
  back := []
  later := []
  closing := []
  earlier_eq := .inl rfl
  comma_notMem := by decide
  equals_notMem := by decide
  readPart_front := by decide
  name_suffix := ⟨"QSize ".toList, by decide⟩
  isBlanks_back := by simp [IsBlanks]
  later_eq := .inl rfl
  isArgumentChar_opening := List.all_eq_true.1 (by decide)
  isArgumentChar_list := List.all_eq_true.1 (by decide)

theorem read_resized :
    read Catalogue.standard "// TODO: void resize(QSize size)" = .ok resized := by
  rfl

/-- One template argument is ignored with the rest of the value. -/
theorem default_ignored_iff_oneTemplateArgument :
    read Catalogue.standard "// TODO: void resize(QSize size = Fixed<4>::size)" = .ok
      { resized with line := "// TODO: void resize(QSize size = Fixed<4>::size)" } := by
  have hargument : sized ∈ resized.arguments := List.mem_singleton.2 rfl
  have hignored := (default_ignored_iff read_resized hargument).2 resizedPlace (by decide)
    "Fixed<4>::size" (by decide)
  have hfill : resizedPlace.fill (" = " ++ "Fixed<4>::size") =
      "// TODO: void resize(QSize size = Fixed<4>::size)" := by
    decide
  have hline : String.ofList (trim "// TODO: void resize(QSize size = Fixed<4>::size)".toList) =
      "// TODO: void resize(QSize size = Fixed<4>::size)" := by
    decide
  have hnone : ("Fixed<4>::size".toList.splitOn ',').tail = [] := by decide
  rw [hfill, hline, hnone] at hignored
  exact hignored.2 ⟨by decide, by simp⟩

/-- Two template arguments are not: the list is cut between them. -/
theorem default_cut_twoTemplateArguments :
    ¬ ∀ (text : String) (signature : Signature) (argument : Argument),
      read Catalogue.standard text = .ok signature → argument ∈ signature.arguments →
      '=' ∉ text.toList → ∀ place : NamePlace Catalogue.standard signature.line argument,
      place.fill "" = text → ∀ value : String, OnOneLine value.toList →
      closes '(' ')' 0 value.toList → closes '{' '}' 0 value.toList →
      closes '<' '>' 0 value.toList →
      ∃ other, read Catalogue.standard (place.fill (" = " ++ value)) = .ok other ∧
        other.name = signature.name ∧ other.resultType = signature.resultType ∧
        other.isVirtual = signature.isVirtual ∧ other.arguments = signature.arguments := by
  intro h
  have hargument : sized ∈ resized.arguments := List.mem_singleton.2 rfl
  obtain ⟨other, hread, -⟩ := h _ resized _ read_resized hargument (by decide) resizedPlace
    (by decide) "Fixed<4, 3>::size" (by decide) (by decide) (by decide) (by decide)
  have hrefused : read Catalogue.standard (resizedPlace.fill (" = " ++ "Fixed<4, 3>::size")) =
      .error (.grammarMismatch (.unnamedArgument "3>::size")
        "// TODO: void resize(QSize size = Fixed<4, 3>::size)") := by
    decide
  exact absurd (hrefused.symm.trans hread) (by simp)

end Signature

end BindingGlue
