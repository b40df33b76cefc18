import BindingGlue.Proofs.Fragments.Agreement
import BindingGlue.Proofs.Fragments.Lines

/-!
# Who owns a result

A native body calls its method once. It hands the result back in a new wrapper, or in the one that
the cache has for it, or as a value, and the typed method does the same on its side
(`Generator.exists_handsBack`).

A new wrapper is told by `::constructor.New(` and the cache by its look-up. The first has a full
stop right behind an `r` and the second one behind an `e`, which is nowhere else in a body, whatever
the names are; and the only blank behind a `w` of a typed method is that of `new`. So two characters
in a row are counted in place of the longer texts. The look-up of a typed method has no such pair,
since an argument may end as the cache does and a method may begin as the look-up does, and is
counted between the blanks and brackets around it.
-/

namespace BindingGlue

open Text

variable {engine : Template.DocumentedEngine} {className line : String} {signature : Signature}
  {argument : Argument} {arguments : List Argument} {type : TypeEntry} {lines : List String}
  {c : Char}

/-! ### Handing back a result -/

namespace Packing

/-- Results are handed back in new wrappers. -/
def builds : Packing → Bool
  | ownedObject | objectList => true
  | nothing | numeric | boolean | string | passThroughObject => false

/-- Results are handed back in the wrapper that the cache has for them. -/
def looksUp : Packing → Bool
  | passThroughObject => true
  | nothing | numeric | boolean | string | ownedObject | objectList => false

end Packing

/-- A native body and a typed method hand the result of the signature back. -/
structure HandsBack (signature : Signature) (nativeBody typed : String) : Prop where
  /-- The native object is called once. -/
  calls : occurrences "this->instance->".toList nativeBody.toList = 1
  /-- A new wrapper is built at one place if the result is owned, and at none otherwise. -/
  builds : occurrences "::constructor.New(".toList nativeBody.toList =
    if signature.resultType.packing.builds then 1 else 0
  /-- The cache is asked at one place if the result is passed through, and at none otherwise. -/
  looksUp : occurrences "WrapperCache::instance.getWrapper(".toList nativeBody.toList =
    if signature.resultType.packing.looksUp then 1 else 0
  /-- The cache is only asked for a result that there is. -/
  guards : signature.resultType.packing.looksUp →
    ["  if (result) \x7b".toList,
      "    return WrapperCache::instance.getWrapper(env, static_cast<QObject*>(result));".toList,
      "  \x7d".toList] <:+: linesOf nativeBody
  /-- The result of the call is kept if there is one. -/
  assigns : occurrences " result = this->instance->".toList nativeBody.toList =
    if signature.hasResult then 1 else 0
  /-- The last statement returns. -/
  returns : ∃ (front : List (List Char)) (value : String),
    linesOf nativeBody = front ++ [("  return " ++ value ++ ";").toList, "\x7d".toList]
  /-- The typed method builds wrappers at as many places as the body. -/
  typed_builds : occurrences "new ".toList typed.toList =
    occurrences "::constructor.New(".toList nativeBody.toList
  /-- The typed method asks its cache at as many places as the body. -/
  typed_looksUp : occurrences "wrapperCache.getWrapper(".toList typed.toList =
    occurrences "WrapperCache::instance.getWrapper(".toList nativeBody.toList

theorem Unmarked.occurrences_stop {text : String} (h : Unmarked text) (c : Char) :
    occurrences [c, '.'] text.toList = 0 :=
  occurrences_eq_zero (c := '.') (by simp) h.2.2.2

/-! ### Native bodies -/

namespace Native

theorem occurrences_stop_openingLines (hc : c = 'r' ∨ c = 'e') {wrapper name argc : String}
    (hwrapper : Unmarked wrapper) (hname : Unmarked name) (hargc : Unmarked argc) :
    ∀ line ∈ Template.openingLines wrapper name argc, occurrences [c, '.'] line.toList = 0 := by
  rcases hc with rfl | rfl
  all_goals
    simp [Template.openingLines, occurrences_pair_append, occurrences_pair_cons,
      hwrapper.occurrences_stop, hname.occurrences_stop, hargc.occurrences_stop]

/-- Where an argument is taken out, each full stop follows a bracket. -/
theorem occurrences_stop_extraction (hc : c = 'r' ∨ c = 'e') (hplain : argument.IsPlain)
    {index : Nat} (h : extraction argument index = .ok lines) :
    ∀ line ∈ lines, occurrences [c, '.'] line.toList = 0 := by
  have hname := hplain.name.occurrences_stop c
  have hspelling := hplain.type.nativeSpelling.occurrences_stop c
  have hbase := hplain.type.baseNative.occurrences_stop c
  have hwrap := hplain.type.wrapText.occurrences_stop c
  have haccessor := hplain.type.accessorText.occurrences_stop c
  have hindex := (unmarked_repr index).occurrences_stop c
  simp only [extraction] at h
  generalize index.repr = number at hindex h
  cases hcategory : argument.type.category with
  | void => exact absurd hcategory hplain.hasValues
  | boolean | signedInteger | unsignedInteger | floatingPoint | string | enumeration | object =>
    simp only [hcategory, Except.ok.injEq] at h
    subst h
    rcases hc with rfl | rfl
    all_goals
      simp [occurrences_pair_append, occurrences_pair_cons, hname, hspelling, hbase, hwrap,
        haccessor, hindex]

/-- A result is built and looked up as its packing says, and nothing else has such a full stop. -/
theorem sum_stop_packing (h : type ∈ Catalogue.standard.results)
    (hlines : packing (.standard engine) type = .ok lines) :
    (lines.map fun line ↦ occurrences ['r', '.'] ("  " ++ line).toList).sum =
      (if type.packing.builds then 1 else 0) ∧
    (lines.map fun line ↦ occurrences ['e', '.'] ("  " ++ line).toList).sum =
      (if type.packing.looksUp then 1 else 0) := by
  have hwrapper : ∀ type ∈ Catalogue.standard.results, ∀ (c : Char),
      occurrences [c, '.'] type.wrapText.toList = 0 ∧
        occurrences [c, '.'] type.baseNative.toList = 0 := by
    intro type htype c
    have hunmarked := isUnmarked_of_mem_standard htype
    exact ⟨hunmarked.wrapText.occurrences_stop c, hunmarked.baseNative.occurrences_stop c⟩
  cases hpacking : type.packing with
  | nothing | boolean | string | passThroughObject =>
    simp only [packing, hpacking, Generator.standard_options, Except.ok.injEq] at hlines
    subst hlines
    constructor
    all_goals decide
  | numeric =>
    simp only [packing, hpacking, Except.ok.injEq] at hlines
    subst hlines
    cases type.bitFlags
    all_goals
      constructor
      all_goals decide
  | ownedObject =>
    have htexts := hwrapper type h
    simp only [packing, hpacking, Except.ok.injEq] at hlines
    subst hlines
    simp [Packing.builds, Packing.looksUp, newWrapper, occurrences_pair_append,
      occurrences_pair_cons, htexts]
  | objectList =>
    obtain ⟨element, helement, rfl⟩ := exists_element_of_packing hpacking hlines
    have htexts := hwrapper element (element_mem_results helement)
    simp [Packing.builds, Packing.looksUp, newWrapper, occurrences_pair_append,
      occurrences_pair_cons, htexts]

theorem exists_new_of_packing (hbuilds : type.packing.builds)
    (h : packing (.standard engine) type = .ok lines) :
    ∃ line ∈ lines, "::constructor.New(".toList <:+: line.toList := by
  have hwrapper : ∀ (entry : TypeEntry) (before object after : String),
      "::constructor.New(".toList <:+: (before ++ newWrapper entry object ++ after).toList := by
    intro entry before object after
    refine ⟨(before ++ entry.wrapText).toList, ("\x7bNapi::External<" ++ entry.baseNative ++
      ">::New(env, new " ++ entry.baseNative ++ "(" ++ object ++ "))\x7d)" ++ after).toList, ?_⟩
    simp [newWrapper]
  cases hpacking : type.packing with
  | nothing | numeric | boolean | string | passThroughObject =>
    rw [hpacking] at hbuilds
    cases hbuilds
  | ownedObject =>
    simp only [packing, hpacking, Except.ok.injEq] at h
    subst h
    exact ⟨_, by simp, hwrapper type "auto resultInstance = " "result" ";"⟩
  | objectList =>
    obtain ⟨element, -, rfl⟩ := exists_element_of_packing hpacking h
    exact ⟨_, by simp, hwrapper element "  resultArrayNapi[i] = " "result[i]" ";"⟩

theorem packing_of_looksUp (hlooksUp : type.packing.looksUp)
    (h : packing (.standard engine) type = .ok lines) :
    lines = ["if (result) \x7b",
      "  return WrapperCache::instance.getWrapper(env, static_cast<QObject*>(result));", "\x7d",
      "return env.Null();"] := by
  cases hpacking : type.packing with
  | nothing | numeric | boolean | string | ownedObject | objectList =>
    rw [hpacking] at hlooksUp
    cases hlooksUp
  | passThroughObject =>
    simp only [packing, hpacking, Except.ok.injEq] at h
    subst h
    rfl

/-- What hands a result back ends in a return. -/
theorem exists_return_of_packing {generator : Generator} (h : packing generator type = .ok lines) :
    ∃ (front : List String) (value : String), lines = front ++ ["return " ++ value ++ ";"] := by
  cases hpacking : type.packing with
  | nothing =>
    simp only [packing, hpacking, Except.ok.injEq] at h
    exact ⟨[], "env.Null()", h.symm⟩
  | numeric =>
    simp only [packing, hpacking, Except.ok.injEq] at h
    refine ⟨[], "Napi::Number::New(env, " ++
      (if type.bitFlags then "static_cast<uint>(result)" else "result") ++ ")", ?_⟩
    rw [← h, List.nil_append, List.singleton_inj, ← String.toList_inj]
    simp
  | boolean =>
    simp only [packing, hpacking, Except.ok.injEq] at h
    exact ⟨[], "Napi::Boolean::New(env, result)", h.symm⟩
  | string =>
    simp only [packing, hpacking, Except.ok.injEq] at h
    exact ⟨[], "Napi::String::New(env, result.toStdString())", h.symm⟩
  | ownedObject =>
    simp only [packing, hpacking, Except.ok.injEq] at h
    exact ⟨[_], "resultInstance", h.symm⟩
  | objectList =>
    obtain ⟨element, -, rfl⟩ := exists_element_of_packing hpacking h
    exact ⟨[_, _, _, _], "resultArrayNapi", rfl⟩
  | passThroughObject =>
    simp only [packing, hpacking, Except.ok.injEq] at h
    exact ⟨[_, _, _], "env.Null()", h.symm⟩

/-- The result of a call is kept where there is one. -/
theorem occurrences_assignment_invocation (hname : '=' ∉ signature.name.toList)
    (harguments : ∀ argument ∈ signature.arguments, '=' ∉ argument.name.toList)
    (hcall : occurrences "this->instance->".toList (invocation {} signature).toList = 1) :
    occurrences " result = this->instance->".toList ("  " ++ invocation {} signature).toList =
      if signature.hasResult then 1 else 0 := by
  have hlist : '=' ∉ (", ".intercalate (signature.arguments.map callArgument)).toList := by
    refine not_mem_intercalate (by simp) fun piece hpiece ↦ ?_
    obtain ⟨argument, hargument, rfl⟩ := List.mem_map.1 hpiece
    rw [callArgument]
    split <;> simp [harguments argument hargument]
  have hcall := (occurrences_indented (by simp) (by simp) _).trans hcall
  rw [invocation_standard] at hcall ⊢
  generalize ", ".intercalate (signature.arguments.map callArgument) = list at hlist hcall ⊢
  cases hresult : signature.hasResult with
  | true =>
    rw [hresult] at hcall
    refine occurrences_eq_ite (b := true) (q := "this->instance->".toList)
      ⟨" result = ".toList, [], by simp⟩ hcall fun _ ↦ ?_
    refine ⟨("  " ++ signature.resultType.nativeSpelling).toList,
      (signature.name ++ ("(" ++ (list ++ ");"))).toList, ?_⟩
    simp
  | false => exact occurrences_eq_zero (c := '=') (by simp) (by simp [hname, hlist])

/-! ### The parts of a body -/

/-- The body of the signature is laid out from these lines, and the texts that they are put together
from have no marks. -/
structure IsLaidOut (engine : Template.DocumentedEngine) (className : String)
    (signature : Signature) (extraction packing : List String) (nativeBody : String) : Prop where
  wrapper : Unmarked (className ++ "Wrap")
  name : Unmarked signature.name
  arguments : ∀ argument ∈ signature.arguments, argument.IsPlain
  resultType_mem : signature.resultType ∈ Catalogue.standard.results
  extraction_eq : extractions 0 signature.arguments = .ok extraction
  packing_eq : Native.packing (.standard engine) signature.resultType = .ok packing
  text_eq : nativeBody = "\n".intercalate (Template.nativeBodyLines (className ++ "Wrap")
    signature.name signature.arguments.length.repr extraction (invocation {} signature) packing)
  linesOf_eq : linesOf nativeBody = (Template.nativeBodyLines (className ++ "Wrap") signature.name
    signature.arguments.length.repr extraction (invocation {} signature) packing).map String.toList

namespace IsLaidOut

variable {extraction packing : List String} {nativeBody : String}

/-- The body calls the native object in its invocation. -/
theorem occurrences_call (h : IsLaidOut engine className signature extraction packing nativeBody) :
    (∀ line ∈ Template.openingLines (className ++ "Wrap") signature.name
        signature.arguments.length.repr, occurrences "this->instance->".toList line.toList = 0) ∧
    (∀ line ∈ extraction, occurrences "this->instance->".toList line.toList = 0) ∧
    (∀ line ∈ packing, '-' ∉ line.toList) ∧
    occurrences "this->instance->".toList (invocation {} signature).toList = 1 := by
  obtain ⟨lines, hlines, hdash⟩ := exists_packing_standard h.resultType_mem
  obtain rfl := Except.ok.inj (hlines.symm.trans h.packing_eq)
  refine ⟨fun line hline ↦ ?_, ?_, hdash, ?_⟩
  · exact occurrences_call_openingLines h.wrapper.2.2.1 h.name.2.2.1 (unmarked_repr _).2.2.1 hline
  · exact forall_mem_extractions (fun argument hargument _ _ hblock _ hline ↦
      occurrences_call_of_extraction (h.arguments argument hargument) hblock hline) h.extraction_eq
  · exact occurrences_call_invocation h.name
      (isUnmarked_of_mem_standard h.resultType_mem).nativeSpelling
      fun argument hargument ↦ (h.arguments argument hargument).name

theorem calls (h : IsLaidOut engine className signature extraction packing nativeBody) :
    occurrences "this->instance->".toList nativeBody.toList = 1 := by
  obtain ⟨-, hextraction, hpacking, hcall⟩ := h.occurrences_call
  rw [h.text_eq, occurrences_call_body h.wrapper.2.2.1 h.name.2.2.1 (unmarked_repr _).2.2.1
    hextraction hpacking, hcall]

/-- The result of the call is kept if there is one. -/
theorem assigns (h : IsLaidOut engine className signature extraction packing nativeBody)
    (hname : '=' ∉ signature.name.toList)
    (harguments : ∀ argument ∈ signature.arguments, '=' ∉ argument.name.toList) :
    occurrences " result = this->instance->".toList nativeBody.toList =
      if signature.hasResult then 1 else 0 := by
  obtain ⟨hopening, hextraction, hpacking, hcall⟩ := h.occurrences_call
  have hzero : ∀ {s : List Char}, occurrences "this->instance->".toList s = 0 →
      occurrences " result = this->instance->".toList s = 0 :=
    occurrences_eq_zero_of_isInfix ⟨" result = ".toList, [], by simp⟩
  have hindented : ∀ line : String, occurrences "this->instance->".toList ("  " ++ line).toList =
      occurrences "this->instance->".toList line.toList :=
    occurrences_indented (by simp) (by simp)
  have hresult : (packing.map fun line ↦
      occurrences " result = this->instance->".toList ("  " ++ line).toList).sum = 0 := by
    rw [List.sum_eq_zero_iff_forall_eq_nat, List.forall_mem_map]
    exact fun line hline ↦ occurrences_eq_zero (c := '-') (by simp) (by simp [hpacking line hline])
  rw [h.text_eq, occurrences_body (by simp) (by simp) (by simp)
    (fun line hline ↦ hzero (hopening line hline))
    (fun line hline ↦ hzero ((hindented line).trans (hextraction line hline))), hresult,
    occurrences_assignment_invocation hname harguments hcall, Nat.add_zero]

/-- A full stop behind one of the two letters is where the result is handed back. -/
theorem occurrences_stop (h : IsLaidOut engine className signature extraction packing nativeBody)
    (hc : c = 'r' ∨ c = 'e') : occurrences [c, '.'] nativeBody.toList =
      (packing.map fun line ↦ occurrences [c, '.'] ("  " ++ line).toList).sum := by
  have hblank : ' ' ∉ [c, '.'] := by rcases hc with rfl | rfl <;> decide
  have hfeed : '\n' ∉ [c, '.'] := by rcases hc with rfl | rfl <;> decide
  have hbrace : '\x7d' ∉ [c, '.'] := by rcases hc with rfl | rfl <;> decide
  have hextraction : ∀ line ∈ extraction, occurrences [c, '.'] line.toList = 0 :=
    forall_mem_extractions (fun argument hargument _ _ ↦
      occurrences_stop_extraction hc (h.arguments argument hargument)) h.extraction_eq
  have hinvocation : '.' ∉ (invocation {} signature).toList :=
    not_mem_invocation (by simp) h.name.2.2.2
      (isUnmarked_of_mem_standard h.resultType_mem).nativeSpelling.2.2.2
      fun argument hargument ↦ (h.arguments argument hargument).name.2.2.2
  rw [h.text_eq, occurrences_body (by simp) hfeed hbrace
    (occurrences_stop_openingLines hc h.wrapper h.name (unmarked_repr _))
    (fun line hline ↦ (occurrences_indented (by simp) hblank line).trans (hextraction line hline)),
    occurrences_eq_zero (c := '.') (by simp)
      (by simp [hinvocation] : '.' ∉ ("  " ++ invocation {} signature).toList), Nat.zero_add]

/-- What hands the result back stands in the body. -/
theorem isInfix_of_mem_packing
    (h : IsLaidOut engine className signature extraction packing nativeBody)
    {line : String} (hline : line ∈ packing) : line.toList <:+: nativeBody.toList := by
  rw [h.text_eq]
  exact toList_isInfix_intercalate_of_append "  " (by simp [Template.nativeBodyLines, hline])

theorem builds (h : IsLaidOut engine className signature extraction packing nativeBody) :
    occurrences "::constructor.New(".toList nativeBody.toList =
      if signature.resultType.packing.builds then 1 else 0 := by
  have hcount := (h.occurrences_stop (.inl rfl)).trans
    (sum_stop_packing h.resultType_mem h.packing_eq).1
  refine occurrences_eq_ite ⟨"::constructo".toList, "New(".toList, by simp⟩ hcount fun hbuilds ↦ ?_
  obtain ⟨line, hline, hnew⟩ := exists_new_of_packing hbuilds h.packing_eq
  exact hnew.trans (h.isInfix_of_mem_packing hline)

theorem looksUp (h : IsLaidOut engine className signature extraction packing nativeBody) :
    occurrences "WrapperCache::instance.getWrapper(".toList nativeBody.toList =
      if signature.resultType.packing.looksUp then 1 else 0 := by
  have hcount := (h.occurrences_stop (.inr rfl)).trans
    (sum_stop_packing h.resultType_mem h.packing_eq).2
  refine occurrences_eq_ite ⟨"WrapperCache::instanc".toList, "getWrapper(".toList, by simp⟩ hcount
    fun hlooksUp ↦ ?_
  have hline : "  return WrapperCache::instance.getWrapper(env, static_cast<QObject*>(result));" ∈
      packing := by
    rw [packing_of_looksUp hlooksUp h.packing_eq]
    simp
  refine List.IsInfix.trans ?_ (h.isInfix_of_mem_packing hline)
  exact ⟨"  return ".toList, "env, static_cast<QObject*>(result));".toList, by simp⟩

/-- The cache is only asked for a result that there is. -/
theorem guards (h : IsLaidOut engine className signature extraction packing nativeBody)
    (hlooksUp : signature.resultType.packing.looksUp) :
    ["  if (result) \x7b".toList,
      "    return WrapperCache::instance.getWrapper(env, static_cast<QObject*>(result));".toList,
      "  \x7d".toList] <:+: linesOf nativeBody := by
  rw [h.linesOf_eq, packing_of_looksUp hlooksUp h.packing_eq]
  refine ⟨(Template.openingLines (className ++ "Wrap") signature.name
    signature.arguments.length.repr ++ extraction.map ("  " ++ ·) ++
      ["  " ++ invocation {} signature]).map String.toList,
    ["  return env.Null();".toList, "\x7d".toList], ?_⟩
  simp [Template.nativeBodyLines]

/-- The last statement returns. -/
theorem returns (h : IsLaidOut engine className signature extraction packing nativeBody) :
    ∃ (front : List (List Char)) (value : String),
      linesOf nativeBody = front ++ [("  return " ++ value ++ ";").toList, "\x7d".toList] := by
  obtain ⟨front, value, hpacking⟩ := exists_return_of_packing h.packing_eq
  rw [h.linesOf_eq, hpacking]
  refine ⟨(Template.openingLines (className ++ "Wrap") signature.name
    signature.arguments.length.repr ++ extraction.map ("  " ++ ·) ++
      ["  " ++ invocation {} signature] ++ front.map ("  " ++ ·)).map String.toList, value, ?_⟩
  simp [Template.nativeBodyLines]

end IsLaidOut

end Native

/-! ### Typed methods -/

namespace Typed

/-- The typed names of the standard types have no blank, and no `w` at the end. -/
theorem typedName_standard : ∀ type ∈ Catalogue.standard.results,
    ' ' ∉ type.typedName.toList ∧ type.typedName.toList.getLast? ≠ some 'w' := by
  decide

theorem occurrences_blank_of_notMem {s : List Char} (h : ' ' ∉ s) : occurrences ['w', ' '] s = 0 :=
  occurrences_eq_zero (c := ' ') (by simp) h

/-- A statement has a blank behind a `w` only where it builds a wrapper. -/
theorem occurrences_blank_statement (h : type ∈ Catalogue.standard.results) {call text : String}
    (hcall : occurrences ['w', ' '] call.toList = 0)
    (htext : statement (.standard engine) type call = .ok text) :
    occurrences ['w', ' '] text.toList = if type.packing.builds then 1 else 0 := by
  have htyped : ∀ entry ∈ Catalogue.standard.results,
      occurrences ['w', ' '] entry.typedName.toList = 0 :=
    fun entry hentry ↦ occurrences_blank_of_notMem (typedName_standard entry hentry).1
  cases hpacking : type.packing with
  | nothing | numeric | boolean | string | ownedObject | passThroughObject =>
    simp only [statement, hpacking, Except.ok.injEq] at htext
    subst htext
    simp [Packing.builds, occurrences_pair_append, occurrences_pair_cons, hcall, htyped type h]
  | objectList =>
    obtain ⟨element, helement, rfl⟩ := exists_element_of_statement hpacking htext
    have hentry := htyped element (Native.element_mem_results helement)
    simp [Packing.builds, occurrences_pair_append, occurrences_pair_cons, hcall, hentry]

theorem isInfix_statement_of_builds (hbuilds : type.packing.builds) {call text : String}
    (htext : statement (.standard engine) type call = .ok text) :
    "new ".toList <:+: text.toList := by
  cases hpacking : type.packing with
  | nothing | numeric | boolean | string | passThroughObject =>
    rw [hpacking] at hbuilds
    cases hbuilds
  | ownedObject =>
    simp only [statement, hpacking, Except.ok.injEq] at htext
    subst htext
    exact ⟨"return ".toList, (type.typedName ++ "(" ++ call ++ ");").toList, by simp⟩
  | objectList =>
    obtain ⟨element, -, rfl⟩ := exists_element_of_statement hpacking htext
    refine ⟨("return " ++ call ++ ".map((item: any) => ").toList,
      (element.typedName ++ "(item));").toList, ?_⟩
    simp

/-- A statement asks the cache only where it hands back the wrapper that is there. -/
theorem occurrences_lookUp_statement (h : type ∈ Catalogue.standard.results) {call text : String}
    {front : List Char} (hcall : call.toList = front ++ [')'])
    (hfront : occurrences "wrapperCache.getWrapper".toList front = 0)
    (htext : statement (.standard engine) type call = .ok text) :
    occurrences "wrapperCache.getWrapper".toList text.toList =
      if type.packing.looksUp then 1 else 0 := by
  have htyped : ∀ {s : List Char}, '.' ∉ s → occurrences "wrapperCache.getWrapper".toList s = 0 :=
    fun hs ↦ occurrences_eq_zero (c := '.') (by simp) hs
  -- a blank or a bracket sets off what stands before the call, and its own one what is behind it
  have hframed : ∀ {before after : String} {s : List Char} {c : Char}, before.toList = s ++ [c] →
      c ∉ "wrapperCache.getWrapper".toList →
      occurrences "wrapperCache.getWrapper".toList (before ++ call ++ after).toList =
        occurrences "wrapperCache.getWrapper".toList s +
          occurrences "wrapperCache.getWrapper".toList after.toList := by
    intro before after s c hbefore hc
    have hpieces : (before ++ call ++ after).toList = s ++ c :: (front ++ ')' :: after.toList) := by
      simp [hbefore, hcall]
    rw [hpieces, occurrences_append_cons (by simp) hc, occurrences_append_cons (by simp) (by simp),
      hfront, Nat.zero_add]
  cases hpacking : type.packing with
  | nothing =>
    simp only [statement, hpacking, Except.ok.injEq] at htext
    subst htext
    have hpieces : (call ++ ";").toList = front ++ ')' :: [';'] := by simp [hcall]
    rw [hpieces, occurrences_append_cons (by simp) (by simp), hfront]
    rfl
  | numeric | boolean | string =>
    simp only [statement, hpacking, Except.ok.injEq] at htext
    subst htext
    rw [hframed (s := "return".toList) (c := ' ') (by simp) (by simp)]
    decide
  | ownedObject =>
    simp only [statement, hpacking, Except.ok.injEq] at htext
    subst htext
    rw [hframed (s := ("return new " ++ type.typedName).toList) (c := '(') (by simp) (by simp),
      htyped (by simp [typedName_of_mem_standard h])]
    decide
  | objectList =>
    obtain ⟨element, helement, rfl⟩ := exists_element_of_statement hpacking htext
    have hentry := typedName_of_mem_standard (Native.element_mem_results helement)
    have hafter : "return " ++ call ++ ".map((item: any) => new " ++ element.typedName ++
        "(item));" = "return " ++ call ++ (".map((item: any) => new " ++ element.typedName ++
          "(item));") := by
      simp only [String.append_assoc]
    have hmap : (".map((item: any) => new " ++ element.typedName ++ "(item));").toList =
        ".map".toList ++
          '(' :: ("(item: any) => new " ++ element.typedName ++ "(item));").toList := by
      simp
    rw [hafter, hframed (s := "return".toList) (c := ' ') (by simp) (by simp), hmap,
      occurrences_append_cons (by simp) (by simp),
      htyped (s := ("(item: any) => new " ++ element.typedName ++ "(item));").toList)
        (by simp [hentry])]
    decide
  | passThroughObject =>
    simp only [statement, hpacking, Except.ok.injEq] at htext
    subst htext
    have hafter : "return " ++ (Generator.standard engine).options.wrapperCache.typedLookup ++
        "(" ++ call ++ ") as " ++ type.typedName ++ ";" = "return wrapperCache.getWrapper(" ++
          call ++ (") as " ++ type.typedName ++ ";") := by
      simp [String.append_assoc]
    rw [hafter, hframed (s := "return wrapperCache.getWrapper".toList) (c := '(') (by simp)
      (by simp), htyped (s := (") as " ++ type.typedName ++ ";").toList)
        (by simp [typedName_of_mem_standard h])]
    decide

theorem isInfix_statement_of_looksUp (hlooksUp : type.packing.looksUp) {call text : String}
    (htext : statement (.standard engine) type call = .ok text) :
    "wrapperCache.getWrapper(".toList <:+: text.toList := by
  cases hpacking : type.packing with
  | nothing | numeric | boolean | string | ownedObject | objectList =>
    rw [hpacking] at hlooksUp
    cases hlooksUp
  | passThroughObject =>
    simp only [statement, hpacking, Except.ok.injEq] at htext
    subst htext
    exact ⟨"return ".toList, (call ++ ") as " ++ type.typedName ++ ";").toList, by simp⟩

/-- A call of the native method neither builds a wrapper nor asks the cache. -/
theorem nativeCall_standard (hname : ' ' ∉ signature.name.toList ∧ '.' ∉ signature.name.toList)
    (harguments : ∀ argument ∈ signature.arguments,
      ' ' ∉ argument.name.toList ∧ '.' ∉ argument.name.toList) :
    occurrences ['w', ' '] (nativeCall {} signature).toList = 0 ∧
    ∃ front, (nativeCall {} signature).toList = front ++ [')'] ∧
      occurrences "wrapperCache.getWrapper".toList front = 0 := by
  have hcall : nativeCall {} signature = "this.native." ++ signature.name ++ "(" ++
      ", ".intercalate (signature.arguments.map (unwrap {})) ++ ")" :=
    rfl
  have hblank : occurrences ['w', ' ']
      (", ".intercalate (signature.arguments.map (unwrap {}))).toList = 0 := by
    refine occurrences_pair_intercalate (by decide) (by simp) (by simp) (by simp) ?_
    intro piece hpiece
    obtain ⟨argument, hargument, rfl⟩ := List.mem_map.1 hpiece
    refine occurrences_blank_of_notMem ?_
    rw [unwrap]
    split <;> simp [(harguments argument hargument).1]
  have hlookUp : occurrences "wrapperCache.getWrapper".toList
      (", ".intercalate (signature.arguments.map (unwrap {}))).toList = 0 := by
    rw [occurrences_intercalate (by simp) (by simp) (by simp)]
    refine sum_occurrences_eq_zero fun piece hpiece ↦ ?_
    obtain ⟨argument, hargument, rfl⟩ := List.mem_map.1 hpiece
    have hargumentName : occurrences ['.', 'g'] argument.name.toList = 0 :=
      occurrences_eq_zero (c := '.') (by simp) (harguments argument hargument).2
    -- the full stop of an argument is that of its member
    refine occurrences_eq_zero_of_isInfix (q := ['.', 'g'])
      ⟨"wrapperCache".toList, "etWrapper".toList, by simp⟩ ?_
    rw [unwrap]
    split
    all_goals simp [occurrences_pair_append, occurrences_pair_cons, hargumentName]
  rw [hcall]
  generalize ", ".intercalate (signature.arguments.map (unwrap {})) = list at hblank hlookUp
  refine ⟨?_, ("this.native." ++ signature.name ++ "(" ++ list).toList, by simp, ?_⟩
  · simp [occurrences_pair_append, occurrences_pair_cons, hblank,
      occurrences_blank_of_notMem hname.1]
  · have hfront : ("this.native." ++ signature.name ++ "(" ++ list).toList =
        ("this.native." ++ signature.name).toList ++ '(' :: list.toList := by
      simp
    have hmember : occurrences "he.".toList ("this.native." ++ signature.name).toList = 0 := by
      have hrest : occurrences "he.".toList signature.name.toList = 0 :=
        occurrences_eq_zero (c := '.') (by simp) hname.2
      rw [String.toList_append]
      simp [occurrences_cons, List.isPrefixOf] at hrest ⊢
      exact hrest
    rw [hfront, occurrences_append_cons (by simp) (by simp), hlookUp,
      occurrences_eq_zero_of_isInfix ⟨"wrapperCac".toList, "getWrapper".toList, by simp⟩ hmember]

/-- A typed method is counted line by line. -/
theorem occurrences_layout {pattern : List Char} (hpattern : pattern ≠ []) (hfeed : '\n' ∉ pattern)
    (name : String) (arguments : List Argument) (result statement : String) :
    occurrences pattern (layout name arguments result statement).toList =
      occurrences pattern (head name arguments result).toList +
        (occurrences pattern ("        " ++ statement).toList +
          occurrences pattern "    \x7d".toList) := by
  rw [layout_eq_intercalate, occurrences_intercalate hpattern (by simp) (by simpa)]
  simp [occurrences_nil hpattern]

/-- Around its statement a typed method has no blank behind a `w`. -/
theorem occurrences_blank_layout {name : String} (hname : ' ' ∉ name.toList)
    (harguments : ∀ argument ∈ arguments,
      ' ' ∉ argument.name.toList ∧ argument.type ∈ Catalogue.standard.results)
    (hresult : type ∈ Catalogue.standard.results) (statement : String) :
    occurrences ['w', ' '] (layout name arguments type.typedName statement).toList =
      occurrences ['w', ' '] statement.toList := by
  have hparameters : occurrences ['w', ' '] (parameters arguments).toList = 0 := by
    refine occurrences_pair_intercalate (by decide) (by simp) (by simp) (by simp) ?_
    intro piece hpiece
    obtain ⟨argument, hargument, rfl⟩ := List.mem_map.1 hpiece
    obtain ⟨hargumentName, htype⟩ := harguments argument hargument
    simp [occurrences_pair_append, occurrences_pair_cons,
      occurrences_blank_of_notMem hargumentName,
      occurrences_blank_of_notMem (typedName_standard argument.type htype).1]
  obtain ⟨htyped, hlast⟩ := typedName_standard type hresult
  have hhead : occurrences ['w', ' '] (head name arguments type.typedName).toList = 0 := by
    simp [head, occurrences_pair_append, occurrences_pair_cons, hparameters,
      occurrences_blank_of_notMem hname, occurrences_blank_of_notMem htyped, hlast]
  rw [occurrences_layout (by simp) (by simp), hhead]
  simp [occurrences_pair_cons]

/-- Around its statement a typed method asks no cache. -/
theorem occurrences_lookUp_layout {name : String} (hname : '.' ∉ name.toList)
    (harguments : ∀ argument ∈ arguments,
      '.' ∉ argument.name.toList ∧ argument.type ∈ Catalogue.standard.results)
    (hresult : type ∈ Catalogue.standard.results) (statement : String) :
    occurrences "wrapperCache.getWrapper".toList
      (layout name arguments type.typedName statement).toList =
      occurrences "wrapperCache.getWrapper".toList statement.toList := by
  have hparameters : '.' ∉ (parameters arguments).toList := by
    refine not_mem_intercalate (by simp) fun piece hpiece ↦ ?_
    obtain ⟨argument, hargument, rfl⟩ := List.mem_map.1 hpiece
    obtain ⟨hargumentName, htype⟩ := harguments argument hargument
    simp [hargumentName, typedName_of_mem_standard htype]
  have hhead : '.' ∉ (head name arguments type.typedName).toList := by
    simp [head, hname, hparameters, typedName_of_mem_standard hresult]
  rw [occurrences_layout (by simp) (by simp), occurrences_eq_zero (c := '.') (by simp) hhead,
    occurrences_eq_zero (c := '.') (by simp) (by simp : '.' ∉ "    \x7d".toList),
    String.toList_append, occurrences_append_right (by simp) (by simp), Nat.zero_add, Nat.add_zero]

end Typed

/-! ### The fragments of a signature -/

namespace Generator

variable {nativeBody typed : String}

/-- The names of a signature that was read have no character that is not one of a word. -/
theorem not_mem_names_of_read (hread : Signature.read Catalogue.standard line = .ok signature)
    (hc : isWord c = false) : c ∉ signature.name.toList ∧
      ∀ argument ∈ signature.arguments, c ∉ argument.name.toList :=
  ⟨not_mem_of_isWord (fun _ hmem ↦ (Signature.isName_of_read hread).isWord_of_mem hmem) hc,
    fun _ hargument ↦ not_mem_of_isWord (Signature.argument_of_read hread hargument).2.2 hc⟩

/-- What the typed method of a signature that was read builds and looks up. -/
theorem occurrences_method_of_read (hread : Signature.read Catalogue.standard line = .ok signature)
    (hmethod : Typed.method (.standard engine) signature = .ok typed) :
    occurrences "new ".toList typed.toList =
      (if signature.resultType.packing.builds then 1 else 0) ∧
    occurrences "wrapperCache.getWrapper(".toList typed.toList =
      (if signature.resultType.packing.looksUp then 1 else 0) := by
  have hresult := Signature.resultType_mem_of_read hread
  obtain ⟨hnameBlank, hargumentBlank⟩ := not_mem_names_of_read hread (c := ' ') (by simp [isWord])
  obtain ⟨hnameStop, hargumentStop⟩ := not_mem_names_of_read hread (c := '.') (by simp [isWord])
  have htypes : ∀ argument ∈ signature.arguments, argument.type ∈ Catalogue.standard.results :=
    fun argument hargument ↦
      List.mem_cons_of_mem _ (Signature.argument_of_read hread hargument).1
  obtain ⟨hcallBlank, front, hcall, hfront⟩ := Typed.nativeCall_standard ⟨hnameBlank, hnameStop⟩
    fun argument hargument ↦ ⟨hargumentBlank argument hargument, hargumentStop argument hargument⟩
  have hblank : ' ' ∉ (Typed.name {} signature.name).toList :=
    Naming.not_mem_stripLegacyPrefix (by decide) _ hnameBlank
  have hstop : '.' ∉ (Typed.name {} signature.name).toList :=
    Naming.not_mem_stripLegacyPrefix (by decide) _ hnameStop
  obtain ⟨statement, hstatement, rfl⟩ := Typed.exists_statement_of_method hmethod
  have hnew := (Typed.occurrences_blank_layout hblank
    (fun argument hargument ↦ ⟨hargumentBlank argument hargument, htypes argument hargument⟩)
    hresult statement).trans (Typed.occurrences_blank_statement hresult hcallBlank hstatement)
  have hlookUp := (Typed.occurrences_lookUp_layout hstop
    (fun argument hargument ↦ ⟨hargumentStop argument hargument, htypes argument hargument⟩)
    hresult statement).trans (Typed.occurrences_lookUp_statement hresult hcall hfront hstatement)
  have hwithin : statement.toList <:+: (Typed.layout (Typed.name {} signature.name)
      signature.arguments signature.resultType.typedName statement).toList :=
    toList_isInfix_intercalate_of_append "        " (by simp)
  constructor
  · exact occurrences_eq_ite ⟨"ne".toList, [], by simp⟩ hnew fun hbuilds ↦
      (Typed.isInfix_statement_of_builds hbuilds hstatement).trans hwithin
  · exact occurrences_eq_ite ⟨[], "(".toList, by simp⟩ hlookUp fun hlooksUp ↦
      (Typed.isInfix_statement_of_looksUp hlooksUp hstatement).trans hwithin

/-- The body of a signature that was read is laid out from its parts. -/
theorem exists_isLaidOut_of_read (hclass : Signature.IsName className.toList)
    (hread : Signature.read Catalogue.standard line = .ok signature)
    (hbody : Native.body (.standard engine) className signature = .ok nativeBody) :
    ∃ extraction packing,
      Native.IsLaidOut engine className signature extraction packing nativeBody := by
  have honeLine : OnOneLine className.toList :=
    onOneLine_of_isWord fun _ hc ↦ hclass.isWord_of_mem hc
  obtain ⟨extraction, packing, hextraction, hpacking, htext, hlines⟩ :=
    exists_bodyLines_of_read honeLine hread hbody
  exact ⟨extraction, packing, {
    wrapper := by simpa [Unmarked] using unmarked_of_isName hclass
    name := unmarked_of_isName (Signature.isName_of_read hread)
    arguments := fun _ hargument ↦ isPlain_of_read hread hargument
    resultType_mem := Signature.resultType_mem_of_read hread
    extraction_eq := hextraction
    packing_eq := hpacking
    text_eq := htext
    linesOf_eq := by
      rw [htext]
      exact linesOf_intercalate_of_notMem (by simp [Template.nativeBodyLines])
        fun line hline ↦ (hlines line hline).lineFeed_notMem }⟩

/-- **A result is handed back by its owner's rule, after one call**: for every class name and every
line that is read as a signature of the standard catalogue, the body calls the native object once,
keeps the result if there is one, and returns in the end. It builds one new wrapper for an owned
result and for the elements of a list, asks the cache once for a result that is passed through, and
does neither otherwise; the typed method does the same. -/
theorem exists_handsBack (hclass : Signature.IsName className.toList)
    (hread : Signature.read Catalogue.standard line = .ok signature) :
    ∃ fragments nativeBody, expand (.standard engine) className .operation line = .ok fragments ∧
      fragments.nativeBody = some nativeBody ∧
      HandsBack signature nativeBody fragments.typed := by
  have hstandard : Signature.read (catalogue (.standard engine)) line = .ok signature := hread
  have hlacks : ¬(standard engine).LacksElement signature.resultType :=
    not_lacksElement_of_mem_standard (Signature.resultType_mem_of_read hread)
  obtain ⟨nativeBody, hbody⟩ :=
    exists_body_eq_ok className (usesStandardTemplates_standard engine) hstandard hlacks
  obtain ⟨typed, hmethod⟩ := Typed.exists_method_eq_ok hlacks
  have hfragments := fragments_operation_eq_ok_iff.2 ⟨nativeBody, typed, hbody, hmethod, rfl⟩
  obtain ⟨hequals, hargumentEquals⟩ := not_mem_names_of_read hread (c := '=') (by simp [isWord])
  obtain ⟨_, _, hlaidOut⟩ := exists_isLaidOut_of_read hclass hread hbody
  obtain ⟨htypedBuilds, htypedLooksUp⟩ := occurrences_method_of_read hread hmethod
  exact ⟨_, nativeBody, (expand_of_read hstandard .operation).trans hfragments, rfl, {
    calls := hlaidOut.calls
    builds := hlaidOut.builds
    looksUp := hlaidOut.looksUp
    guards := hlaidOut.guards
    assigns := hlaidOut.assigns hequals hargumentEquals
    returns := hlaidOut.returns
    typed_builds := htypedBuilds.trans hlaidOut.builds.symm
    typed_looksUp := htypedLooksUp.trans hlaidOut.looksUp.symm }⟩

/-- A result that is passed through, and an argument with a name that looks like a construction. -/
theorem exists_handsBack_menu :
    ∃ fragments nativeBody,
      expand (.standard Interpreter.documented) "QPushButton" .operation
        "// TODO: QMenu *menu(int new) const" = .ok fragments ∧
      fragments.nativeBody = some nativeBody ∧
      HandsBack {
        name := "menu"
        resultType := Vocabulary.pointerObject "QMenu"
        arguments := [⟨Vocabulary.signed "int", "new"⟩]
        line := "// TODO: QMenu *menu(int new) const" } nativeBody fragments.typed := by
  refine exists_handsBack ?_ ?_
  · rw [String.toList_ofList]
    exact ⟨'Q', _, rfl, by decide, by simp [isWord]⟩
  · rw [Signature.read, String.toList_ofList]
    rfl

end Generator

end BindingGlue
