import BindingGlue.Proofs.Fragments.Extraction
import BindingGlue.Proofs.Fragments.Faults

/-!
# The one call of a native body

Under the standard catalogue a native body calls the native object once, in its invocation
(`Native.occurrences_call_body`), and what is passed on and handed back calls nothing. A call is
told by its dashes. Names, spellings and numbers have none, and of the other lines only the last one
of an object's block has a dash, which does not follow an instance.
-/

namespace BindingGlue

open Text

variable {engine : Template.DocumentedEngine} {line : String} {signature : Signature}
  {argument : Argument} {type : TypeEntry}

/-! ### The texts of the standard catalogue -/

/-- No text of a standard type has a mark, but that the typed name of a list has brackets. -/
theorem unmarked_standard :
    (Catalogue.standard.results.all fun type ↦
      decide (Unmarked type.nativeSpelling ∧ Unmarked type.wrapText ∧ Unmarked type.accessorText ∧
        '.' ∉ type.typedName.toList)) = true := by
  decide +kernel

theorem isUnmarked_of_mem_standard (h : type ∈ Catalogue.standard.results) : type.IsUnmarked := by
  obtain ⟨hnative, hwrap, haccessor, -⟩ :=
    of_decide_eq_true (List.all_eq_true.1 unmarked_standard type h)
  refine ⟨hnative, ?_, hwrap, haccessor⟩
  rw [unmarked_iff, List.all_eq_true] at hnative ⊢
  exact fun c hc ↦ hnative c (mem_of_mem_baseNative hc)

theorem typedName_of_mem_standard (h : type ∈ Catalogue.standard.results) :
    '.' ∉ type.typedName.toList :=
  (of_decide_eq_true (List.all_eq_true.1 unmarked_standard type h)).2.2.2

/-- An argument that was read has values, and its texts have no marks. -/
theorem isPlain_of_read (h : Signature.read Catalogue.standard line = .ok signature)
    (hargument : argument ∈ signature.arguments) : argument.IsPlain := by
  obtain ⟨hentry, hpassable, hname⟩ := Signature.argument_of_read h hargument
  exact ⟨TypeEntry.category_ne_void_of_isPassable hpassable,
    isUnmarked_of_mem_standard (List.mem_cons_of_mem _ hentry), unmarked_of_isWord hname⟩

/-! ### Names -/

theorem unmarked_of_isName {s : String} (h : Signature.IsName s.toList) : Unmarked s :=
  unmarked_of_isWord fun _ hc ↦ h.isWord_of_mem hc

/-! ### Results -/

namespace Native

theorem element_mem_results {generator : Generator} {element : TypeEntry}
    (h : generator.element type = .ok element) : element ∈ generator.catalogue.results := by
  rw [Generator.element] at h
  split at h
  case h_1 entry hentry =>
    obtain rfl := Except.ok.inj h
    obtain ⟨name, -, hname⟩ := Option.bind_eq_some_iff.1 hentry
    exact (lastNamed?_eq_some hname).1
  case h_2 => cases h

/-- A dash and the ends of lines, which code has in few places. -/
private theorem eq_of_dash_or_isLineEnd {c : Char} (hc : c = '-' ∨ isLineEnd c) :
    c = '-' ∨ c = '\n' ∨ c = '\r' := by
  rwa [isLineEnd, Bool.or_eq_true, beq_iff_eq, beq_iff_eq] at hc

theorem not_mem_newWrapper {c : Char} (hc : c = '-' ∨ isLineEnd c)
    (hbase : c ∉ type.baseNative.toList) (hwrap : c ∉ type.wrapText.toList) (object : String)
    (hobject : c ∉ object.toList) : c ∉ (newWrapper type object).toList := by
  rcases eq_of_dash_or_isLineEnd hc with rfl | rfl | rfl
  all_goals simp [newWrapper, hbase, hwrap, hobject]

/-- What hands a result back has no dash and stands on one line, if the texts of the types do. -/
theorem not_mem_packing {c : Char} (hc : c = '-' ∨ isLineEnd c)
    (htexts : ∀ type ∈ Catalogue.standard.results,
      c ∉ type.baseNative.toList ∧ c ∉ type.wrapText.toList)
    (h : type ∈ Catalogue.standard.results) {lines : List String}
    (hlines : packing (.standard engine) type = .ok lines) : ∀ line ∈ lines, c ∉ line.toList := by
  have hresult : c ∉ "result".toList ∧ c ∉ "result[i]".toList := by
    rcases eq_of_dash_or_isLineEnd hc with rfl | rfl | rfl
    all_goals simp
  cases hpacking : type.packing with
  | nothing | boolean | string | passThroughObject =>
    simp only [packing, hpacking, Except.ok.injEq] at hlines
    subst hlines
    rcases eq_of_dash_or_isLineEnd hc with rfl | rfl | rfl
    all_goals simp
  | numeric =>
    simp only [packing, hpacking, Except.ok.injEq] at hlines
    subst hlines
    rcases eq_of_dash_or_isLineEnd hc with rfl | rfl | rfl
    all_goals
      split
      all_goals simp
  | ownedObject =>
    obtain ⟨hbase, hwrap⟩ := htexts type h
    have hwrapper := not_mem_newWrapper hc hbase hwrap "result" hresult.1
    simp only [packing, hpacking, Except.ok.injEq] at hlines
    subst hlines
    rcases eq_of_dash_or_isLineEnd hc with rfl | rfl | rfl
    all_goals simp [hwrapper]
  | objectList =>
    obtain ⟨element, helement, rfl⟩ := exists_element_of_packing hpacking hlines
    obtain ⟨hbase, hwrap⟩ := htexts element (element_mem_results helement)
    have hwrapper := not_mem_newWrapper hc hbase hwrap "result[i]" hresult.2
    rcases eq_of_dash_or_isLineEnd hc with rfl | rfl | rfl
    all_goals simp [hwrapper]

/-- A result is handed back without another call. -/
theorem exists_packing_standard (h : type ∈ Catalogue.standard.results) :
    ∃ lines, packing (.standard engine) type = .ok lines ∧ ∀ line ∈ lines, '-' ∉ line.toList := by
  obtain ⟨lines, hlines⟩ := exists_packing_eq_ok (Generator.not_lacksElement_of_mem_standard h)
  have htexts : ∀ type ∈ Catalogue.standard.results,
      '-' ∉ type.baseNative.toList ∧ '-' ∉ type.wrapText.toList := by
    intro type htype
    have hunmarked := isUnmarked_of_mem_standard htype
    exact ⟨hunmarked.baseNative.2.2.1, hunmarked.wrapText.2.2.1⟩
  exact ⟨lines, hlines, not_mem_packing (.inl rfl) htexts h hlines⟩

/-! ### Calls -/

/-- The statement that calls the method, spelled out. -/
theorem invocation_standard (signature : Signature) :
    invocation {} signature =
      (if signature.hasResult then signature.resultType.nativeSpelling ++ " result = " else "") ++
        ("this->instance->" ++ (signature.name ++ ("(" ++
          (", ".intercalate (signature.arguments.map callArgument) ++ ");")))) := by
  have hinstance : ({} : Options).nativeInstance ++ "->" = "this->instance->" := rfl
  rw [invocation, hinstance]
  split
  case isTrue => simp only [String.append_assoc]
  case isFalse => simp only [String.append_assoc, String.empty_append]

/-- An invocation has no other characters than its names and its fixed texts. -/
theorem not_mem_invocation {c : Char} (hc : c ∉ " result = this->instance->(*, );".toList)
    (hname : c ∉ signature.name.toList) (hresult : c ∉ signature.resultType.nativeSpelling.toList)
    (harguments : ∀ argument ∈ signature.arguments, c ∉ argument.name.toList) :
    c ∉ (invocation {} signature).toList := by
  simp only [String.reduceToList, List.mem_cons, List.not_mem_nil, or_false, not_or] at hc
  have hlist : c ∉ (", ".intercalate (signature.arguments.map callArgument)).toList := by
    refine not_mem_intercalate (by simp [hc]) fun piece hpiece ↦ ?_
    obtain ⟨argument, hargument, rfl⟩ := List.mem_map.1 hpiece
    rw [callArgument]
    split <;> simp [harguments argument hargument, hc]
  rw [invocation_standard]
  generalize ", ".intercalate (signature.arguments.map callArgument) = list at hlist ⊢
  split <;> simp [hname, hresult, hlist, hc]

theorem occurrences_call_append {text : String} (h : '-' ∉ text.toList) :
    occurrences "this->instance->".toList ("this->instance->" ++ text).toList = 1 := by
  have hrest := occurrences_call_of_unmarked h
  rw [String.toList_append]
  simp [occurrences_cons, List.isPrefixOf] at hrest ⊢
  exact hrest

/-- An invocation is one call. -/
theorem occurrences_call_invocation (hname : Unmarked signature.name)
    (hresult : Unmarked signature.resultType.nativeSpelling)
    (harguments : ∀ argument ∈ signature.arguments, Unmarked argument.name) :
    occurrences "this->instance->".toList (invocation {} signature).toList = 1 := by
  obtain ⟨-, -, hname, -⟩ := hname
  obtain ⟨-, -, hresult, -⟩ := hresult
  have hcall : '-' ∉ (signature.name ++ ("(" ++
      (", ".intercalate (signature.arguments.map callArgument) ++ ");"))).toList := by
    have hlist : '-' ∉ (", ".intercalate (signature.arguments.map callArgument)).toList := by
      refine not_mem_intercalate (by simp) fun piece hpiece ↦ ?_
      obtain ⟨argument, hargument, rfl⟩ := List.mem_map.1 hpiece
      obtain ⟨-, -, hargument, -⟩ := harguments argument hargument
      rw [callArgument]
      split <;> simp [hargument]
    generalize ", ".intercalate (signature.arguments.map callArgument) = list at hlist ⊢
    simp [hname, hlist]
  rw [invocation_standard]
  split
  case isTrue =>
    have htext : (signature.resultType.nativeSpelling ++ " result = ").toList =
        (signature.resultType.nativeSpelling ++ " result =").toList ++ [' '] := by
      simp
    rw [String.toList_append, htext, List.append_assoc, List.singleton_append,
      occurrences_append_cons (by simp) (by simp),
      occurrences_call_of_unmarked (by simp [hresult]), occurrences_call_append hcall]
  case isFalse =>
    rw [String.empty_append]
    exact occurrences_call_append hcall

/-! ### Bodies -/

theorem occurrences_call_openingLines {wrapper name argc : String}
    (hwrapper : '-' ∉ wrapper.toList) (hname : '-' ∉ name.toList) (hargc : '-' ∉ argc.toList)
    {line : String} (hline : line ∈ Template.openingLines wrapper name argc) :
    occurrences "this->instance->".toList line.toList = 0 := by
  refine occurrences_call_of_unmarked ?_
  simp only [Template.openingLines, List.mem_cons, List.not_mem_nil, or_false] at hline
  rcases hline with rfl | rfl | rfl | rfl | rfl | rfl | rfl | rfl | rfl | rfl
  -- the head and the number of arguments, and then the lines that are always the same
  case inr.inl => simp [hwrapper, hname]
  case inr.inr.inr.inr.inr.inl => simp [hargc]
  all_goals exact not_mem_ofList (by decide)

/-- What occurs neither at the opening of a body nor where arguments are taken out occurs in the
invocation and in what hands the result back. -/
theorem occurrences_body {pattern : List Char} (hpattern : pattern ≠ []) (hfeed : '\n' ∉ pattern)
    (hbrace : '\x7d' ∉ pattern) {wrapper name argc invocation : String}
    {extraction packing : List String}
    (hopening : ∀ line ∈ Template.openingLines wrapper name argc,
      occurrences pattern line.toList = 0)
    (hextraction : ∀ line ∈ extraction, occurrences pattern ("  " ++ line).toList = 0) :
    occurrences pattern ("\n".intercalate
      (Template.nativeBodyLines wrapper name argc extraction invocation packing)).toList =
      occurrences pattern ("  " ++ invocation).toList +
        (packing.map fun line ↦ occurrences pattern ("  " ++ line).toList).sum := by
  have hlines : ∀ line ∈ extraction.map ("  " ++ ·), occurrences pattern line.toList = 0 := by
    intro line hline
    obtain ⟨text, htext, rfl⟩ := List.mem_map.1 hline
    exact hextraction text htext
  have hclosing : occurrences pattern "\x7d".toList = 0 := by
    have hdrop := occurrences_append_right (s := "\x7d".toList) (t := []) hpattern (by simpa)
    rwa [List.append_nil, occurrences_nil hpattern] at hdrop
  rw [occurrences_intercalate hpattern (by simp) (by simpa), Template.nativeBodyLines,
    List.map_append, List.map_append, List.map_append, List.map_append, List.sum_append,
    List.sum_append, List.sum_append, List.sum_append, sum_occurrences_eq_zero hopening,
    sum_occurrences_eq_zero hlines, List.map_singleton, List.sum_singleton, List.map_map,
    List.map_singleton, List.sum_singleton, hclosing, Nat.add_zero, Nat.zero_add]
  rfl

/-- The indentation of a line adds nothing to a pattern without blanks. -/
theorem occurrences_indented {pattern : List Char} (hpattern : pattern ≠ [])
    (hblank : ' ' ∉ pattern) (line : String) :
    occurrences pattern ("  " ++ line).toList = occurrences pattern line.toList := by
  rw [String.toList_append]
  exact occurrences_append_right hpattern (by simpa)

/-- A body calls the native object as often as its invocation does. -/
theorem occurrences_call_body {wrapper name argc invocation : String}
    {extraction packing : List String} (hwrapper : '-' ∉ wrapper.toList) (hname : '-' ∉ name.toList)
    (hargc : '-' ∉ argc.toList)
    (hextraction : ∀ line ∈ extraction, occurrences "this->instance->".toList line.toList = 0)
    (hpacking : ∀ line ∈ packing, '-' ∉ line.toList) :
    occurrences "this->instance->".toList ("\n".intercalate
      (Template.nativeBodyLines wrapper name argc extraction invocation packing)).toList =
      occurrences "this->instance->".toList invocation.toList := by
  have hindented : ∀ line : String, occurrences "this->instance->".toList ("  " ++ line).toList =
      occurrences "this->instance->".toList line.toList :=
    occurrences_indented (by simp) (by simp)
  have hresult : (packing.map fun line ↦
      occurrences "this->instance->".toList ("  " ++ line).toList).sum = 0 := by
    simp only [hindented]
    exact sum_occurrences_eq_zero fun line hline ↦
      occurrences_call_of_unmarked (hpacking line hline)
  rw [occurrences_body (by simp) (by simp) (by simp)
    (fun line hline ↦ occurrences_call_openingLines hwrapper hname hargc hline)
    (fun line hline ↦ (hindented line).trans (hextraction line hline)), hresult, Nat.add_zero,
    hindented]

end Native

end BindingGlue
