import BindingGlue.Proofs.Batch.Refused
import BindingGlue.Proofs.Fragments.Lines

/-!
# The two modes

Under the standard generator both modes read a line alike, so what operation mode refuses is refused
in property mode for the same reason. What property mode accepts is laid out as in operation mode,
and only the statement of the typed method is its own. Property mode refuses more, and what it
refuses can be told from the signature: the number of arguments has to fit, and a result must not be
a list or an object that is passed through.
-/

namespace BindingGlue

open Text

variable {engine : Template.DocumentedEngine} {className line : String} {signature : Signature}
  {refusal : Refusal}

/-- The standard types that a property is not read with are the lists and the objects that are
passed through. -/
theorem propertyGetter_eq_none_iff : ∀ type ∈ Catalogue.standard.results, type.isVoid = false →
    (type.propertyGetter = none ↔
      type.packing = .objectList ∨ type.packing = .passThroughObject) := by
  decide

/-- A signature with a standard result type is no property in one of three cases. -/
theorem Typed.isUnfit_iff (h : signature.resultType ∈ Catalogue.standard.results) :
    IsUnfit signature refusal ↔
      signature.hasResult = false ∧ signature.arguments.length ≠ 1 ∧
          refusal = .grammarMismatch (.setterArity signature.name) signature.line ∨
        signature.hasResult = true ∧ signature.arguments ≠ [] ∧
          refusal = .grammarMismatch (.getterArity signature.name) signature.line ∨
        signature.hasResult = true ∧ signature.arguments = [] ∧
          (signature.resultType.packing = .objectList ∨
            signature.resultType.packing = .passThroughObject) ∧
          refusal = .unsupportedType signature.resultType.name .unreadable signature.line := by
  have hgetter : signature.hasResult = true → (signature.resultType.propertyGetter = none ↔
      signature.resultType.packing = .objectList ∨
        signature.resultType.packing = .passThroughObject) := by
    intro hresult
    rw [Signature.hasResult, Bool.not_eq_true'] at hresult
    exact propertyGetter_eq_none_iff _ h hresult
  constructor
  · intro hunfit
    cases hunfit with
    | setterArity hvoid hcount => exact .inl ⟨hvoid, hcount, rfl⟩
    | getterArity hresult harguments => exact .inr (.inl ⟨hresult, harguments, rfl⟩)
    | unreadable hresult harguments htype =>
      exact .inr (.inr ⟨hresult, harguments, (hgetter hresult).1 htype, rfl⟩)
  · rintro (⟨hvoid, hcount, rfl⟩ | ⟨hresult, harguments, rfl⟩ |
      ⟨hresult, harguments, hpacking, rfl⟩)
    · exact .setterArity hvoid hcount
    · exact .getterArity hresult harguments
    · exact .unreadable hresult harguments ((hgetter hresult).2 hpacking)

namespace Generator

variable {generator : Generator} {fragments : Fragments} {diagnostic : Diagnostic}

/-- What is no signature is refused in both modes alike, under any generator. -/
theorem generate_property_of_refused
    (h : generator.generate className .operation line = .ok (.error diagnostic)) :
    generator.generate className .property line = .ok (.error diagnostic) := by
  obtain ⟨refusal, hread | ⟨hmode, -⟩, rfl⟩ := generate_eq_error_iff.1 h
  · exact generate_eq_error_iff.2 ⟨refusal, .inl hread, rfl⟩
  · cases hmode

/-- A line that is read has fragments in operation mode. -/
theorem exists_generate_operation (className : String)
    (hread : Signature.read (catalogue (.standard engine)) line = .ok signature) :
    ∃ method, generate (.standard engine) className .operation line = .ok (.ok method) := by
  obtain ⟨method, hexpand⟩ := exists_expand_eq_ok className
    (usesStandardTemplates_standard engine) hread
    (not_lacksElement_of_mem_standard (Signature.resultType_mem_of_read hread))
  exact ⟨method, by rw [generate, hexpand]; rfl⟩

/-- What is laid out for a signature has one line of its own, the second one. -/
theorem linesOf_of_isLaidOut {text : String}
    (hread : Signature.read Catalogue.standard line = .ok signature)
    (h : Typed.IsLaidOut signature text) :
    ∃ statement : String, linesOf text =
      [(Typed.head (Typed.name {} signature.name) signature.arguments
          signature.resultType.typedName).toList,
        statement.toList, "    \x7d".toList, []] := by
  obtain ⟨statement, hstatement, rfl⟩ := h
  exact ⟨"        " ++ statement,
    Typed.linesOf_layout (onOneLine_head_of_read hread).lineFeed_notMem
      hstatement.lineFeed_notMem⟩

theorem expand_property_eq_refused_iff
    (hread : Signature.read (catalogue (.standard engine)) line = .ok signature) :
    expand (.standard engine) className .property line = .error (.refused refusal) ↔
      Typed.IsUnfit signature refusal := by
  rw [expand_of_read hread, fragments_eq_refused_iff]
  simp

/-- **The modes agree**, under the standard generator. What operation mode refuses is refused in
property mode in the same way. What property mode accepts is accepted in operation mode, and of the
four lines of the two typed fragments only the second ones differ. Beyond that property mode refuses
a signature without a result unless it has one argument, and one with a result if it has an argument
or if the result is a list or an object that is passed through. -/
theorem modes_agree (engine : Template.DocumentedEngine) (className line : String) :
    (∀ diagnostic, generate (.standard engine) className .operation line = .ok (.error diagnostic) →
      generate (.standard engine) className .property line = .ok (.error diagnostic)) ∧
    (∀ accessor, generate (.standard engine) className .property line = .ok (.ok accessor) →
      ∃ method, generate (.standard engine) className .operation line = .ok (.ok method) ∧
        ∃ signature, Signature.read .standard line = .ok signature ∧
          ∃ head statement statement' : String,
            head = "    " ++ Typed.name {} signature.name ++ "(" ++
              Typed.parameters signature.arguments ++ "): " ++ signature.resultType.typedName ++
                " \x7b" ∧
            linesOf method.typed = [head.toList, statement.toList, "    \x7d".toList, []] ∧
            linesOf accessor.typed = [head.toList, statement'.toList, "    \x7d".toList, []]) ∧
    ∀ method, generate (.standard engine) className .operation line = .ok (.ok method) →
      ∃ signature, Signature.read .standard line = .ok signature ∧
        (∀ diagnostic,
          generate (.standard engine) className .property line = .ok (.error diagnostic) ↔
          ∃ refusal,
            expand (.standard engine) className .property line = .error (.refused refusal) ∧
            diagnostic = refusal.diagnostic) ∧
        ∀ refusal, expand (.standard engine) className .property line = .error (.refused refusal) ↔
          signature.hasResult = false ∧ signature.arguments.length ≠ 1 ∧
              refusal = .grammarMismatch (.setterArity signature.name) signature.line ∨
            signature.hasResult = true ∧ signature.arguments ≠ [] ∧
              refusal = .grammarMismatch (.getterArity signature.name) signature.line ∨
            signature.hasResult = true ∧ signature.arguments = [] ∧
              (signature.resultType.packing = .objectList ∨
                signature.resultType.packing = .passThroughObject) ∧
              refusal = .unsupportedType signature.resultType.name .unreadable
                signature.line := by
  refine ⟨fun _ ↦ generate_property_of_refused, fun accessor haccessor ↦ ?_,
    fun method hmethod ↦ ?_⟩
  · obtain ⟨signature, hread, -⟩ := generate_eq_ok_iff.1 haccessor
    obtain ⟨method, hmethod⟩ := exists_generate_operation className hread
    obtain ⟨statement, hlines⟩ := linesOf_of_isLaidOut hread (areOf_of_generate hread hmethod).typed
    obtain ⟨statement', hlines'⟩ :=
      linesOf_of_isLaidOut hread (areOf_of_generate hread haccessor).typed
    exact ⟨method, hmethod, signature, hread, _, statement, statement', rfl, hlines, hlines'⟩
  · obtain ⟨signature, hread, -⟩ := generate_eq_ok_iff.1 hmethod
    refine ⟨signature, hread, fun diagnostic ↦ ?_, fun refusal ↦ ?_⟩
    · simp only [generate_eq_error_iff, expand_eq_refused_iff]
    · rw [expand_property_eq_refused_iff hread]
      exact Typed.isUnfit_iff (Signature.resultType_mem_of_read hread)

/-- An unknown type, a property that is set, and a list, which is read in operation mode alone. -/
theorem modes_agree_rects :
    generate (.standard Interpreter.documented) "QLabel" .property "// TODO: Rect f()" =
      .ok (.error ⟨"UnsupportedType", "unsupported type 'Rect'", "// TODO: Rect f()"⟩) ∧
    (∃ method, generate (.standard Interpreter.documented) "QLabel" .operation
        "// TODO: void setIndent(int indent)" = .ok (.ok method) ∧
      ∃ statement : String, linesOf method.typed =
        ["    setIndent(indent: number): void \x7b".toList, statement.toList, "    \x7d".toList,
          []]) ∧
    expand (.standard Interpreter.documented) "QLabel" .property "// TODO: QList<QRect> rects()" =
      .error (.refused (.unsupportedType "QList<QRect>" .unreadable
        "// TODO: QList<QRect> rects()")) := by
  refine ⟨?_, ?_, ?_⟩
  · have hrefused : generate (.standard Interpreter.documented) "QLabel" .operation
        "// TODO: Rect f()" =
        .ok (.error ⟨"UnsupportedType", "unsupported type 'Rect'", "// TODO: Rect f()"⟩) := by
      rfl
    exact (modes_agree _ _ _).1 _ hrefused
  · obtain ⟨accessor, haccessor⟩ : ∃ accessor,
        generate (.standard Interpreter.documented) "QLabel" .property
          "// TODO: void setIndent(int indent)" = .ok (.ok accessor) :=
      ⟨_, rfl⟩
    have hread : Signature.read .standard "// TODO: void setIndent(int indent)" = .ok {
        name := "setIndent"
        resultType := Vocabulary.void
        arguments := [{ type := Vocabulary.signed "int", name := "indent" }]
        line := "// TODO: void setIndent(int indent)" } := by
      decide
    obtain ⟨method, hmethod, signature, hread', head, statement, -, rfl, hlines, -⟩ :=
      (modes_agree _ _ _).2.1 _ haccessor
    obtain rfl := Except.ok.inj (hread.symm.trans hread')
    exact ⟨method, hmethod, statement, hlines⟩
  · have hread : Signature.read .standard "// TODO: QList<QRect> rects()" = .ok {
        name := "rects"
        resultType := Vocabulary.objectList "QList<QRect>" (Vocabulary.valueObject "QRect")
        line := "// TODO: QList<QRect> rects()" } := by
      decide
    obtain ⟨method, hmethod⟩ := exists_generate_operation "QLabel" hread
    obtain ⟨signature, hread', -, hrefused⟩ := (modes_agree _ _ _).2.2 _ hmethod
    obtain rfl := Except.ok.inj (hread.symm.trans hread')
    exact (hrefused _).2 (.inr (.inr ⟨rfl, rfl, .inl rfl, rfl⟩))

end Generator

end BindingGlue
