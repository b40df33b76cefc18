import BindingGlue.Proofs.Fragments.Calls

/-!
# The fragments of a signature agree

Each fragment of a signature is written by a function of its own: the declaration, the registration,
the native body and the typed method. They have to say the same: the name of the method, and its
arguments in their order, taken out, passed on and forwarded by the same names
(`Fragments.Agrees`). Under the standard catalogue they do so for every signature that is read
(`Generator.exists_agreeing_fragments`).
-/

namespace BindingGlue

open Text

variable {engine : Template.DocumentedEngine} {className line : String} {signature : Signature}
  {type : TypeEntry}

/-- The fragments are those of one method and agree on its arguments. -/
structure Fragments.Agrees (fragments : Fragments) (className : String) (signature : Signature) :
    Prop where
  /-- The method is declared under its name. -/
  declares : fragments.declaration =
    some ("  Napi::Value " ++ signature.name ++ "(const Napi::CallbackInfo& info);")
  /-- The method is exposed under its name, as the member of that name. -/
  registers : fragments.registration =
    some ("    InstanceMethod(\"" ++ signature.name ++ "\", &" ++ className ++ "Wrap::" ++
      signature.name ++ "),")
  /-- The body opens, below the empty line that keeps bodies apart, as the member of that name and
  asks for as many arguments as there are. Then it has one block of lines for each argument, in
  order, and its only call, which passes them on in order. -/
  takesOut : ∃ (blocks : List (List String)) (packing : List String) (nativeBody : String),
    fragments.nativeBody = some nativeBody ∧
    nativeBody = "\n".intercalate (Template.nativeBodyLines (className ++ "Wrap") signature.name
      signature.arguments.length.repr blocks.flatten
      ((if signature.hasResult then signature.resultType.nativeSpelling ++ " result = " else "") ++
        ("this->instance->" ++ (signature.name ++ ("(" ++
          (", ".intercalate (signature.arguments.map fun argument ↦
            if argument.type.needsDereference then "*" ++ argument.name else argument.name) ++
          ");")))))
      packing) ∧
    List.Forall₂ (fun entry lines ↦ Native.TakesOut entry.1 entry.2 lines)
      signature.arguments.zipIdx blocks ∧
    occurrences "this->instance->".toList nativeBody.toList = 1
  /-- The typed method has the arguments as its parameters, in order, and its only call of the
  native method forwards them in order. -/
  forwards : ∃ before after statement : String,
    fragments.typed = "\n".intercalate [
      "    " ++ Typed.name {} signature.name ++ "(" ++
        ", ".intercalate (signature.arguments.map fun argument ↦
          argument.name ++ ": " ++ argument.type.typedName) ++ "): " ++
        signature.resultType.typedName ++ " \x7b",
      "        " ++ statement,
      "    \x7d",
      ""] ∧
    statement = before ++ ("this.native." ++ signature.name ++ "(" ++
      ", ".intercalate (signature.arguments.map fun argument ↦
        if argument.type.needsNativeUnwrap then argument.name ++ ".native" else argument.name) ++
      ")") ++ after ∧
    occurrences "this.native.".toList statement.toList = 1

/-! ### Forwarding -/

namespace Typed

/-- What is forwarded for an argument, spelled out. -/
theorem unwrap_standard : unwrap {} = fun argument ↦
    if argument.type.needsNativeUnwrap then argument.name ++ ".native" else argument.name := by
  funext argument
  rw [unwrap]
  split
  case isTrue => simp [String.append_assoc]
  case isFalse => rfl

/-- A text with fewer full stops than a call forwards nothing. -/
theorem occurrences_forward_of_count {s : List Char} (h : s.count '.' < 2) :
    occurrences "this.native.".toList s = 0 := by
  refine occurrences_eq_zero_of_count (c := '.') ?_
  rw [String.toList_ofList]
  exact h

theorem occurrences_forward_append {text : String} (h : '.' ∉ text.toList) :
    occurrences "this.native.".toList ("this.native." ++ text).toList = 1 := by
  have hrest : occurrences "this.native.".toList text.toList = 0 :=
    occurrences_eq_zero (by simp) h
  rw [String.toList_append]
  simp [occurrences_cons, List.isPrefixOf] at hrest ⊢
  exact hrest

/-- What is forwarded is one call. -/
theorem occurrences_forward_call {name list after : String} (hname : '.' ∉ name.toList)
    (hlist : occurrences "this.native.".toList list.toList = 0)
    (hafter : occurrences "this.native.".toList after.toList = 0) :
    occurrences "this.native.".toList
      ("this.native." ++ name ++ "(" ++ list ++ ")" ++ after).toList = 1 := by
  have htext : ("this.native." ++ name ++ "(" ++ list ++ ")" ++ after).toList =
      ("this.native." ++ name).toList ++ '(' :: (list.toList ++ ')' :: after.toList) := by
    simp
  rw [htext, occurrences_append_cons (by simp) (by simp),
    occurrences_append_cons (by simp) (by simp), occurrences_forward_append hname, hlist, hafter]

/-- A beginning without a call that ends in a blank or a bracket adds nothing. -/
theorem occurrences_forward_after {before call after : String} {s : List Char} {c : Char}
    (hbefore : before.toList = s ++ [c]) (hs : s.count '.' < 2) (hc : c ∉ "this.native.".toList) :
    occurrences "this.native.".toList (before ++ call ++ after).toList =
      occurrences "this.native.".toList (call ++ after).toList := by
  rw [String.append_assoc, String.toList_append, hbefore, List.append_assoc, List.singleton_append,
    occurrences_append_cons (by simp) hc, occurrences_forward_of_count hs, Nat.zero_add]

/-- A statement that hands back the result of a call consists of the call and what stands around
it, which calls nothing. -/
theorem exists_statement_standard (h : type ∈ Catalogue.standard.results) {name list : String}
    (hname : '.' ∉ name.toList) (hlist : occurrences "this.native.".toList list.toList = 0) :
    ∃ before after : String,
      statement (.standard engine) type ("this.native." ++ name ++ "(" ++ list ++ ")") =
        .ok (before ++ ("this.native." ++ name ++ "(" ++ list ++ ")") ++ after) ∧
      occurrences "this.native.".toList
        (before ++ ("this.native." ++ name ++ "(" ++ list ++ ")") ++ after).toList = 1 := by
  -- only the count of the call is used below, not how it is written
  have hcall : ∀ {after : String}, occurrences "this.native.".toList after.toList = 0 → _ :=
    fun hafter ↦ occurrences_forward_call hname hlist hafter
  generalize "this.native." ++ name ++ "(" ++ list ++ ")" = call at hcall ⊢
  have htyped : ∀ entry ∈ Catalogue.standard.results, entry.typedName.toList.count '.' = 0 :=
    fun entry hentry ↦ List.count_eq_zero.2 (typedName_of_mem_standard hentry)
  cases hpacking : type.packing with
  | nothing =>
    refine ⟨"", ";", ?_, ?_⟩
    · simp [statement, hpacking]
    · rw [String.empty_append]
      exact hcall (occurrences_forward_of_count (by simp))
  | numeric | boolean | string =>
    refine ⟨"return ", ";", ?_, ?_⟩
    · simp [statement, hpacking]
    · rw [occurrences_forward_after (s := "return".toList) (c := ' ') (by simp) (by simp) (by simp)]
      exact hcall (occurrences_forward_of_count (by simp))
  | ownedObject =>
    refine ⟨"return new " ++ type.typedName ++ "(", ");", ?_, ?_⟩
    · simp [statement, hpacking, String.append_assoc]
    · rw [occurrences_forward_after (s := ("return new " ++ type.typedName).toList) (c := '(')
        (by simp) (by simp [htyped type h]) (by simp)]
      exact hcall (occurrences_forward_of_count (by simp))
  | objectList =>
    obtain ⟨element, helement⟩ : ∃ element,
        Generator.element (.standard engine) type = .ok element :=
      Generator.exists_element_eq_ok hpacking (Generator.not_lacksElement_of_mem_standard h)
    have hmem : element ∈ Catalogue.standard.results := Native.element_mem_results helement
    refine ⟨"return ", ".map((item: any) => new " ++ element.typedName ++ "(item));", ?_, ?_⟩
    · simp only [statement, hpacking, helement, String.append_assoc]
      rfl
    · rw [occurrences_forward_after (s := "return".toList) (c := ' ') (by simp) (by simp) (by simp)]
      exact hcall (occurrences_forward_of_count (by simp [htyped element hmem]))
  | passThroughObject =>
    refine ⟨"return wrapperCache.getWrapper(", ") as " ++ type.typedName ++ ";", ?_, ?_⟩
    · simp [statement, hpacking, String.append_assoc]
    · rw [occurrences_forward_after (s := "return wrapperCache.getWrapper".toList) (c := '(')
        (by simp) (by simp) (by simp)]
      exact hcall (occurrences_forward_of_count (by simp [htyped type h]))

/-- The arguments of a call are no calls. -/
theorem occurrences_forward_arguments {arguments : List Argument}
    (h : ∀ argument ∈ arguments, argument.IsPlain) :
    occurrences "this.native.".toList (", ".intercalate (arguments.map (unwrap {}))).toList =
      0 := by
  rw [occurrences_intercalate (by simp) (by simp) (by simp)]
  refine sum_occurrences_eq_zero fun piece hpiece ↦ occurrences_forward_of_count ?_
  obtain ⟨argument, hargument, rfl⟩ := List.mem_map.1 hpiece
  have hname : argument.name.toList.count '.' = 0 :=
    List.count_eq_zero.2 (h argument hargument).name.2.2.2
  rw [unwrap]
  split
  all_goals simp [hname]

end Typed

/-! ### All fragments of a signature -/

namespace Generator

/-- The native body of a signature that was read, with one block of lines for each argument. -/
theorem exists_body_standard (engine : Template.DocumentedEngine)
    (hclass : Signature.IsName className.toList)
    (hread : Signature.read Catalogue.standard line = .ok signature) :
    ∃ (blocks : List (List String)) (packing : List String) (nativeBody : String),
      Native.body (.standard engine) className signature = .ok nativeBody ∧
      nativeBody = "\n".intercalate (Template.nativeBodyLines (className ++ "Wrap") signature.name
        signature.arguments.length.repr blocks.flatten (Native.invocation {} signature) packing) ∧
      List.Forall₂ (fun entry lines ↦ Native.TakesOut entry.1 entry.2 lines)
        signature.arguments.zipIdx blocks ∧
      occurrences "this->instance->".toList nativeBody.toList = 1 := by
  have hplain : ∀ argument ∈ signature.arguments, argument.IsPlain :=
    fun argument hargument ↦ isPlain_of_read hread hargument
  have hresult := Signature.resultType_mem_of_read hread
  have hname := unmarked_of_isName (Signature.isName_of_read hread)
  obtain ⟨blocks, hblocks, htakes⟩ := Native.exists_blocks hplain 0
  obtain ⟨packing, hpacking, hdash⟩ := Native.exists_packing_standard hresult
  have hwrapper : '-' ∉ (className ++ "Wrap").toList := by
    simp [(unmarked_of_isName hclass).2.2.1]
  refine ⟨blocks, packing, _,
    Native.body_eq_ok (usesStandardTemplates_standard engine) hblocks hpacking, rfl, htakes, ?_⟩
  show occurrences "this->instance->".toList ("\n".intercalate (Template.nativeBodyLines
    (className ++ "Wrap") _ _ _ _ _)).toList = 1
  rw [Native.occurrences_call_body hwrapper hname.2.2.1 (unmarked_repr _).2.2.1
    (Native.occurrences_call_of_blocks htakes) hdash]
  exact Native.occurrences_call_invocation hname
    (isUnmarked_of_mem_standard hresult).nativeSpelling fun argument hargument ↦
      (hplain argument hargument).name

/-- The typed method of a signature that was read, with its one statement. -/
theorem exists_method_standard (engine : Template.DocumentedEngine)
    (hread : Signature.read Catalogue.standard line = .ok signature) :
    ∃ before after statement : String,
      Typed.method (.standard engine) signature = .ok (Typed.layout (Typed.name {} signature.name)
        signature.arguments signature.resultType.typedName statement) ∧
      statement = before ++ ("this.native." ++ signature.name ++ "(" ++
        ", ".intercalate (signature.arguments.map (Typed.unwrap {})) ++ ")") ++ after ∧
      occurrences "this.native.".toList statement.toList = 1 := by
  have hname := unmarked_of_isName (Signature.isName_of_read hread)
  obtain ⟨before, after, hstatement, honce⟩ := Typed.exists_statement_standard
    (Signature.resultType_mem_of_read hread) hname.2.2.2
    (Typed.occurrences_forward_arguments fun argument hargument ↦ isPlain_of_read hread hargument)
  have hcall : Typed.nativeCall {} signature = "this.native." ++ signature.name ++ "(" ++
      ", ".intercalate (signature.arguments.map (Typed.unwrap {})) ++ ")" :=
    rfl
  refine ⟨before, after, _, ?_, rfl, honce⟩
  rw [Typed.method, standard_options, hcall]
  show (Typed.statement (.standard engine) signature.resultType _ >>= _) = _
  rw [hstatement]
  rfl

/-- **The fragments of a signature agree**: for every class name and every line that is read as a
signature of the standard catalogue, there are the four fragments, and they have the name of the
method and its arguments, in order, in common. -/
theorem exists_agreeing_fragments (hclass : Signature.IsName className.toList)
    (hread : Signature.read Catalogue.standard line = .ok signature) :
    ∃ fragments, expand (.standard engine) className .operation line = .ok fragments ∧
      fragments.Agrees className signature := by
  obtain ⟨blocks, packing, nativeBody, hbody, htext, htakes, hcalls⟩ :=
    exists_body_standard engine hclass hread
  obtain ⟨before, after, statement, hmethod, hstatement, hforwards⟩ :=
    exists_method_standard engine hread
  have hfragments := fragments_operation_eq_ok_iff.2 ⟨nativeBody, _, hbody, hmethod, rfl⟩
  have hstandard : Signature.read (catalogue (.standard engine)) line = .ok signature := hread
  have hexpand := (expand_of_read hstandard .operation).trans hfragments
  rw [Native.invocation_standard] at htext
  rw [Typed.unwrap_standard] at hstatement
  exact ⟨_, hexpand, rfl, congrArg some (Native.registration_standard className signature),
    ⟨blocks, packing, nativeBody, rfl, htext, htakes, hcalls⟩,
    ⟨before, after, statement, rfl, hstatement, hforwards⟩⟩

/-- An argument without a name is left out of every fragment. -/
theorem exists_agreeing_fragments_place :
    ∃ fragments,
      expand (.standard Interpreter.documented) "QWidget" .operation
        "// TODO: QRect place(const QRect &area, const QSize &, int w);" = .ok fragments ∧
      fragments.Agrees "QWidget" {
        name := "place"
        resultType := Vocabulary.valueObject "QRect"
        arguments := [⟨Vocabulary.valueObject "QRect", "area"⟩, ⟨Vocabulary.signed "int", "w"⟩]
        line := "// TODO: QRect place(const QRect &area, const QSize &, int w);" } := by
  refine exists_agreeing_fragments ?_ ?_
  · rw [String.toList_ofList]
    exact ⟨'Q', _, rfl, by decide, by simp [isWord]⟩
  · rw [Signature.read, String.toList_ofList]
    rfl

end Generator

end BindingGlue
