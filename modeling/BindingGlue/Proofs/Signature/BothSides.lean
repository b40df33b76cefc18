import BindingGlue.Proofs.Signature.ArgumentGrammar
import BindingGlue.Proofs.Signature.Printed
import BindingGlue.Proofs.Types.Extension

/-!
# Types on both sides of a line

A type is read the same way wherever it stands, but a list of arguments is cut before any type in it
is read: at every comma, and each part at its first equals sign. So a type whose template arguments
hold one of the two is read as a result and not as an argument. The cut leaves an opening bracket
behind that nothing closes, and no declaration has one (`ArgumentFits.gt_mem_of_lt_mem`), so the
part is always refused. Every other type of the catalogue is read on both sides (`sides_read_iff`).
-/

namespace BindingGlue

open Text BindingGlue.Types

variable {catalogue : Catalogue} {argument : Argument} {line : String}

namespace Signature

variable {type name s rest part : List Char}

/-! ### Brackets -/

/-- A character of a declaration that stands outside its type. -/
def IsOutsideType (c : Char) : Prop :=
  isWord c ∨ isBlank c ∨ isMark c

theorem not_isOutsideType_lt : ¬ IsOutsideType '<' := by
  simp [IsOutsideType, isWord, isMark, show isBlank '<' = false from by decide]

theorem isOutsideType_of_mem_const {c : Char} (h : c ∈ "const".toList) : IsOutsideType c :=
  .inl (isName_const.isWord_of_mem h)

theorem isOutsideType_of_isQualifier {isConst : Bool} (h : IsQualifier "const" isConst s) :
    ∀ c ∈ s, IsOutsideType c :=
  h.forall_mem (fun _ ↦ isOutsideType_of_mem_const) fun _ hc ↦ .inr (.inl hc)

theorem IsArgumentSeparator.isOutsideType (h : IsArgumentSeparator s) :
    ∀ c ∈ s, IsOutsideType c := by
  intro c hc
  rcases h with ⟨hblanks, -⟩ | ⟨left, constant, marks, right, rfl, hleft, hconstant, hmarks, -,
    hright⟩
  · exact .inr (.inl (hblanks c hc))
  · simp only [List.mem_append] at hc
    rcases hc with ((hc | hc) | hc) | hc
    · exact .inr (.inl (hleft c hc))
    · rcases hconstant with rfl | ⟨blanks, rfl, hblanks⟩
      · cases hc
      · rcases List.mem_append.1 hc with hc | hc
        · exact isOutsideType_of_mem_const hc
        · exact .inr (.inl (hblanks c hc))
    · exact .inr (.inr (hmarks c hc))
    · exact .inr (.inl (hright c hc))

theorem isTypeChar_lt : isTypeChar '<' = false := by
  simp [isTypeChar, isWord]

/-- The template arguments of a type are closed. -/
theorem IsType.gt_mem_of_lt_mem (h : IsType type) (hopen : '<' ∈ type) : '>' ∈ type := by
  obtain ⟨c, cs, arguments, rfl, hc, hcs, rfl | ⟨inner, rfl, -⟩⟩ := h
  · rw [List.append_nil] at hopen
    rcases List.mem_cons.1 hopen with rfl | hopen
    · exact absurd hc (by decide)
    · exact absurd (hcs _ hopen) (by simp [isTypeChar_lt])
  · simp

/-- A bracket that opens in a declaration belongs to its type, so it is closed there. -/
theorem ArgumentFits.gt_mem_of_lt_mem (h : ArgumentFits type name s) (hopen : '<' ∈ s) :
    '>' ∈ s := by
  obtain ⟨constant, isConst, separator, rfl, hconstant, htype, hseparator, hname⟩ := h
  have hoff : ∀ c ∈ constant ++ separator ++ name, IsOutsideType c := by
    rw [List.forall_mem_append, List.forall_mem_append]
    exact ⟨⟨isOutsideType_of_isQualifier hconstant, IsArgumentSeparator.isOutsideType hseparator⟩,
      fun c hc ↦ .inl (hname c hc)⟩
  have hinside : '<' ∈ type := by
    by_contra houtside
    refine not_isOutsideType_lt (hoff '<' ?_)
    simp only [List.mem_append] at hopen ⊢
    tauto
  have hclose := htype.gt_mem_of_lt_mem hinside
  simp [hclose]

/-- A declaration with a bracket that is not closed is refused. -/
theorem readPart_of_open_bracket (catalogue : Catalogue) (line : String)
    (hopen : '<' ∈ declarationOf part) (hclose : '>' ∉ declarationOf part) :
    readPart catalogue line part =
      .error (.grammarMismatch (argumentFault (declarationOf part)) line) := by
  refine readPart_of_not_fits catalogue line (fun hvoid ↦ ?_) ?_
  · rw [hvoid, String.toList_ofList] at hopen
    exact absurd hopen (by decide)
  · rintro ⟨type, name, hfits⟩
    exact hclose (hfits.gt_mem_of_lt_mem hopen)

/-! ### Where a list is cut -/

/-- A character that a list of arguments is not cut at. -/
def isUncut (c : Char) : Bool :=
  c != '=' && c != ','

theorem isUncut_of_isTypeChar {c : Char} (h : isTypeChar c) : isUncut c := by
  rw [isUncut, Bool.and_eq_true, bne_iff_ne, bne_iff_ne]
  constructor
  all_goals
    rintro rfl
    exact absurd h (by simp [isTypeChar, isWord])

/-- A type that is cut is cut between its brackets, so the one that opens is left. -/
theorem IsType.takeWhile_isUncut (h : IsType type) (hcut : ∃ c ∈ type, isUncut c = false) :
    '<' ∈ type.takeWhile isUncut ∧ '>' ∉ type.takeWhile isUncut := by
  obtain ⟨c, cs, arguments, rfl, hc, hcs, harguments⟩ := h
  obtain ⟨d, hd, hcut⟩ := hcut
  have hqualified : ∀ e ∈ c :: cs, isTypeChar e :=
    List.forall_mem_cons.2 ⟨isTypeChar_of_isWord (isWord_of_isNameStart hc), hcs⟩
  have hwithin : d ∈ arguments := by
    refine (List.mem_append.1 hd).resolve_left fun hd ↦ ?_
    rw [isUncut_of_isTypeChar (hqualified d hd)] at hcut
    cases hcut
  rcases harguments with rfl | ⟨inner, rfl, hinner⟩
  · cases hwithin
  · have hinside : d ∈ inner := by
      rw [List.cons_append, List.mem_cons, List.mem_append, List.mem_singleton] at hwithin
      rcases hwithin with rfl | hd | rfl
      · exact absurd hcut (by decide)
      · exact hd
      · exact absurd hcut (by decide)
    have htake : ('<' :: inner ++ ['>']).takeWhile isUncut = '<' :: inner.takeWhile isUncut := by
      rw [List.cons_append, List.takeWhile_cons_of_pos (by decide),
        takeWhile_append_of_mem hinside hcut]
    rw [List.takeWhile_append_of_pos fun e he ↦ isUncut_of_isTypeChar (hqualified e he), htake]
    refine ⟨by simp, fun hmem ↦ ?_⟩
    rcases List.mem_append.1 hmem with hmem | hmem
    · exact absurd (hqualified _ hmem) (by simp [isTypeChar, isWord])
    · rcases List.mem_cons.1 hmem with heq | hmem
      · exact absurd heq (by decide)
      · exact absurd (hinner _ ((List.takeWhile_prefix _).subset hmem)) (by decide)

/-- The first part of a list declares what stands in front of the first cut. -/
theorem declarationOf_takeWhile (s : List Char) :
    declarationOf (s.takeWhile (· != ',')) = trim (s.takeWhile isUncut) := by
  rw [declarationOf, List.takeWhile_takeWhile]
  simp only [Bool.decide_and, Bool.decide_eq_true]
  rfl

theorem toList_argumentList_singleton (argument : Argument) :
    (argumentList [argument]).toList = argument.written := by
  rw [toList_argumentList, List.map_singleton, List.intercalate_singleton]

theorem argumentParts_singleton (h : argument.IsWritten) :
    argumentParts (argumentList [argument]) = argument.written.splitOn ',' := by
  have hempty : argument.written.isEmpty = false := by simp [Argument.written]
  simp only [argumentParts, toList_argumentList_singleton, h.trim_written, hempty,
    decide_eq_false (written_ne_void argument)]
  rfl

/-- A list whose first type is cut is refused. -/
theorem exists_readParts_eq_grammarMismatch (catalogue : Catalogue) (line : String)
    (h : argument.IsWritten) (hcut : ∃ c ∈ argument.type.name.toList, isUncut c = false) :
    ∃ fault, readParts catalogue line [] (argumentParts (argumentList [argument])) =
      .error (.grammarMismatch fault line) := by
  obtain ⟨others, hparts⟩ := exists_splitOn_eq_cons ',' argument.written
  obtain ⟨hopen, hclose⟩ := h.isType.takeWhile_isUncut hcut
  obtain ⟨c, hmem, hc⟩ := hcut
  have hdeclaration : declarationOf (argument.written.takeWhile (· != ',')) =
      trim (argument.type.name.toList.takeWhile isUncut) := by
    rw [declarationOf_takeWhile, Argument.written, takeWhile_append_of_mem hmem hc]
  have hopen : '<' ∈ declarationOf (argument.written.takeWhile (· != ',')) := by
    rw [hdeclaration]
    exact mem_trim hopen (by decide)
  have hclose : '>' ∉ declarationOf (argument.written.takeWhile (· != ',')) := by
    rw [hdeclaration]
    exact fun hmem ↦ hclose ((trim_isInfix _).subset hmem)
  rw [argumentParts_singleton h, hparts,
    readParts_cons_of_error (readPart_of_open_bracket catalogue line hopen hclose)]
  exact ⟨_, rfl⟩

/-! ### The two lines -/

/-- The line of a method without arguments. -/
theorem render_noArguments (method : String) (type : TypeEntry) :
    render { name := method, resultType := type } =
      "// TODO: " ++ type.name ++ " " ++ method ++ "()" := by
  apply String.toList_injective
  rw [toList_render, toList_argumentList]
  simp

/-- The line of a method with one argument. -/
theorem render_oneArgument (method name : String) (type : TypeEntry) {result : TypeEntry}
    (hresult : result.name = "void") :
    render { name := method, resultType := result, arguments := [{ type, name }] } =
      "// TODO: void " ++ method ++ "(" ++ type.name ++ " " ++ name ++ ")" := by
  apply String.toList_injective
  rw [toList_render, toList_argumentList_singleton, hresult]
  simp [Argument.written]

theorem exists_resultType?_void (catalogue : Catalogue) :
    ∃ result, catalogue.resultType? "void" = some result ∧
      result.IsReadable catalogue.results ∧ result.name = "void" := by
  have hbare : bareName "void" = "void" := rfl
  have htype : takeType? "void".toList = some ("void".toList, []) := rfl
  have hvoid : Vocabulary.void ∈ catalogue.results := List.mem_cons_self
  obtain ⟨result, hresult⟩ := exists_lastNamed? hvoid
  have hname : result.name = "void" := (lastNamed?_eq_some hresult).2
  refine ⟨result, by rw [Catalogue.resultType?, hbare]; exact hresult, ⟨?_, ?_, ?_⟩, hname⟩
  · rw [hname]
    exact (takeType?_sound htype).2
  · rw [hname, hbare]
  · exact lastNamed?_name hresult

/-- **Which types are read on both sides.** A type of an extended catalogue that can be passed, with
a name that is a type and its own bare name, is read as a result. As an argument it is read exactly
if no comma and no equals sign stands in it: with one of them, between the brackets of its template
arguments, the list of arguments is cut there and the line is refused. -/
theorem sides_read_iff (extra : List TypeEntry) (type : TypeEntry)
    (hmem : type ∈ (Catalogue.extended extra).results) (hvoid : type.category ≠ .void)
    (hlist : type.packing ≠ .objectList) (htype : IsType type.name.toList)
    (hbare : bareName type.name = type.name) (method name : String)
    (hmethod : IsName method.toList) (hne : name ≠ "") (hname : ∀ c ∈ name.toList, isWord c) :
    read (.extended extra) ("// TODO: " ++ type.name ++ " " ++ method ++ "()") = .ok {
        name := method, resultType := type,
        line := "// TODO: " ++ type.name ++ " " ++ method ++ "()" } ∧
    ∃ result, (Catalogue.extended extra).resultType? "void" = some result ∧
      (',' ∉ type.name.toList ∧ '=' ∉ type.name.toList →
        read (.extended extra)
            ("// TODO: void " ++ method ++ "(" ++ type.name ++ " " ++ name ++ ")") = .ok {
          name := method, resultType := result, arguments := [{ type, name }],
          line := "// TODO: void " ++ method ++ "(" ++ type.name ++ " " ++ name ++ ")" }) ∧
      (¬ (',' ∉ type.name.toList ∧ '=' ∉ type.name.toList) → ∃ fault,
        read (.extended extra)
            ("// TODO: void " ++ method ++ "(" ++ type.name ++ " " ++ name ++ ")") =
          .error (.grammarMismatch fault
            ("// TODO: void " ++ method ++ "(" ++ type.name ++ " " ++ name ++ ")"))) := by
  obtain ⟨hresult, hargument⟩ := Catalogue.lastNamed?_extended_of_isPassable extra hmem
    (TypeEntry.isPassable_iff.2 ⟨hvoid, hlist⟩)
  obtain ⟨result, hfound, hreadable, hresultName⟩ :=
    exists_resultType?_void (Catalogue.extended extra)
  have hwritten : Argument.IsWritten { type, name } := ⟨htype, hne, hname⟩
  refine ⟨?_, result, hfound, fun huncut ↦ ?_, fun hcut ↦ ?_⟩
  · rw [← render_noArguments]
    exact IsPrintable.read_eq ⟨hmethod, ⟨htype, hbare, hresult⟩, by simp, .nil⟩
  · rw [← render_oneArgument method name type hresultName]
    refine IsPrintable.read_eq ⟨hmethod, hreadable, fun argument hmem ↦ ?_, List.nodup_singleton _⟩
    obtain rfl := List.mem_singleton.1 hmem
    exact ⟨⟨htype, hbare, hargument⟩, huncut.1, huncut.2, hne, hname⟩
  · have hcut : ∃ c ∈ type.name.toList, isUncut c = false := by
      by_cases hcomma : ',' ∈ type.name.toList
      case pos => exact ⟨',', hcomma, by decide⟩
      case neg => exact ⟨'=', by_contra fun hequals ↦ hcut ⟨hcomma, hequals⟩, by decide⟩
    have hvoidType : IsType result.name.toList := hreadable.isType
    obtain ⟨fault, hfault⟩ := exists_readParts_eq_grammarMismatch (.extended extra)
      (render { name := method, resultType := result, arguments := [{ type, name }] })
      hwritten hcut
    refine ⟨fault, ?_⟩
    rw [← render_oneArgument method name type hresultName,
      read_render_eq_outcome _ hmethod hvoidType, LineParts.outcome]
    · simp only [renderedParts, hresultName, hfound, hfault]
      rfl
    · rw [toList_argumentList_singleton]
      exact fun c hc ↦ hwritten.isArgumentChar_of_mem hc

/-- A list type of pointers is no standard type, and is read on both sides once it is one. -/
theorem sides_read_iff_template :
    (Vocabulary.valueObject "QList<QMenu*>" ∈
        (Catalogue.extended [Vocabulary.valueObject "QList<QMenu*>"]).results ∧
      IsType "QList<QMenu*>".toList ∧ bareName "QList<QMenu*>" = "QList<QMenu*>" ∧
      IsName "setMenus".toList ∧ ∀ c ∈ "menus".toList, isWord c) ∧
    read (.extended [Vocabulary.valueObject "QList<QMenu*>"])
        "// TODO: void setMenus(QList<QMenu*> menus)" = .ok {
      name := "setMenus", resultType := Vocabulary.void,
      arguments := [{ type := Vocabulary.valueObject "QList<QMenu*>", name := "menus" }],
      line := "// TODO: void setMenus(QList<QMenu*> menus)" } := by
  have hmem : Vocabulary.valueObject "QList<QMenu*>" ∈
      (Catalogue.extended [Vocabulary.valueObject "QList<QMenu*>"]).results := by
    decide
  have htype : takeType? "QList<QMenu*>".toList = some ("QList<QMenu*>".toList, []) := by
    decide
  have hmethod : takeName? "setMenus".toList = some ("setMenus".toList, []) := by decide
  have hbare : bareName "QList<QMenu*>" = "QList<QMenu*>" := by decide
  have hname : "menus".toList.all isWord = true := by decide
  have hresult : (Catalogue.extended [Vocabulary.valueObject "QList<QMenu*>"]).resultType? "void" =
      some Vocabulary.void := by
    decide
  obtain ⟨-, result, hfound, hread, -⟩ := sides_read_iff [Vocabulary.valueObject "QList<QMenu*>"]
    (Vocabulary.valueObject "QList<QMenu*>") hmem (by decide) (by decide) (takeType?_sound htype).2
    hbare "setMenus" "menus" (takeName?_sound hmethod).2 (by decide) (List.all_eq_true.1 hname)
  obtain rfl := Option.some.inj (hresult.symm.trans hfound)
  exact ⟨⟨hmem, (takeType?_sound htype).2, hbare, (takeName?_sound hmethod).2,
    List.all_eq_true.1 hname⟩, hread (by decide)⟩

/-- A type with two template arguments is read as a result and refused as an argument. -/
theorem sides_part_twoTemplateArguments :
    ¬ ∀ (extra : List TypeEntry) (type : TypeEntry), type ∈ (Catalogue.extended extra).results →
      type.category ≠ .void → type.packing ≠ .objectList → IsType type.name.toList →
      bareName type.name = type.name → ∀ method name : String, IsName method.toList → name ≠ "" →
      (∀ c ∈ name.toList, isWord c) →
      (∃ signature, read (.extended extra)
          ("// TODO: " ++ type.name ++ " " ++ method ++ "()") = .ok signature ∧
        signature.resultType = type) ∧
      ∃ signature, read (.extended extra)
          ("// TODO: void " ++ method ++ "(" ++ type.name ++ " " ++ name ++ ")") = .ok signature ∧
        signature.arguments = [{ type, name }] := by
  intro h
  have htype : takeType? "QMap<int,QString>".toList = some ("QMap<int,QString>".toList, []) := by
    decide
  have hmethod : takeName? "m".toList = some ("m".toList, []) := by decide
  have hname : "x".toList.all isWord = true := by decide
  obtain ⟨-, signature, hread, -⟩ := h [Vocabulary.valueObject "QMap<int,QString>"]
    (Vocabulary.valueObject "QMap<int,QString>") (by decide) (by decide) (by decide)
    (takeType?_sound htype).2 (by decide) "m" "x" (takeName?_sound hmethod).2 (by decide)
    (List.all_eq_true.1 hname)
  have hrefused : read (.extended [Vocabulary.valueObject "QMap<int,QString>"])
      "// TODO: void m(QMap<int,QString> x)" = .error (.grammarMismatch
        (.unnamedArgument "QMap<int") "// TODO: void m(QMap<int,QString> x)") := by
    decide
  exact absurd (hrefused.symm.trans hread) (by simp)

end Signature

end BindingGlue
