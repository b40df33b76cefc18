import BindingGlue.Fragments.Typed
import BindingGlue.Proofs.Conversion.Verbatim
import BindingGlue.Proofs.Signature.Accepted
import BindingGlue.Proofs.Fragments.Native
import BindingGlue.Proofs.Batch.Report
import BindingGlue.Proofs.Batch.Run
import BindingGlue.Proofs.Interpreter.Documented

/-!
# The one fault of a generator

With the standard templates the fragments of a signature have one fault, a list whose elements the
catalogue does not know (`Generator.LacksElement`), and the native body and the typed method have it
on the same signatures. Everything else that could be at fault is ruled out by what an accepted
signature is: its arguments have values, so each of them has extraction lines, and the standard
templates are filled in whatever the values are.

The standard catalogue knows the elements of its lists, and its conversions ask for nothing but the
three values that they are given. So the generator that nobody changed has no fault at all, and
answers every text.
-/

namespace BindingGlue

variable {generator : Generator} {engine : Template.DocumentedEngine} {className line : String}
  {signature : Signature}
  {type : TypeEntry}

/-- The type is handed back as a list, and it names no element or one that no result type has. -/
def Generator.LacksElement (generator : Generator) (type : TypeEntry) : Prop :=
  type.packing = .objectList ∧
    ∀ name, type.element = some name →
      ∀ entry ∈ generator.catalogue.results, entry.name ≠ name

namespace Generator

theorem element_eq_error (h : generator.LacksElement type) :
    generator.element type = .error (.missingElement type.name) := by
  rw [element, Catalogue.elementType?_eq_none_iff.2 h.2]

theorem exists_element_eq_ok (hpacking : type.packing = .objectList)
    (h : ¬ generator.LacksElement type) : ∃ entry, generator.element type = .ok entry := by
  cases helement : generator.catalogue.elementType? type with
  | none => exact absurd ⟨hpacking, Catalogue.elementType?_eq_none_iff.1 helement⟩ h
  | some entry => exact ⟨entry, by rw [element, helement]⟩

end Generator

/-! ### Native bodies -/

namespace Native

theorem packing_eq_error (h : generator.LacksElement type) :
    packing generator type = .error (.missingElement type.name) := by
  simp only [packing, h.1, Generator.element_eq_error h]
  rfl

theorem exists_packing_eq_ok (h : ¬ generator.LacksElement type) :
    ∃ lines, packing generator type = .ok lines := by
  cases hpacking : type.packing with
  | objectList =>
    obtain ⟨entry, hentry⟩ := Generator.exists_element_eq_ok hpacking h
    simp only [packing, hpacking, hentry]
    exact ⟨_, rfl⟩
  | nothing | numeric | boolean | string | ownedObject | passThroughObject =>
    simp only [packing, hpacking]
    exact ⟨_, rfl⟩

/-- What hands a list back builds a wrapper for each element. -/
theorem exists_element_of_packing (hpacking : type.packing = .objectList) {lines : List String}
    (h : packing generator type = .ok lines) :
    ∃ element, generator.element type = .ok element ∧ lines = [
      "Napi::Array resultArrayNapi = Napi::Array::New(env, result.size());",
      "for (uint32_t i = 0; i < static_cast<uint32_t>(result.size()); i++) \x7b",
      "  resultArrayNapi[i] = " ++ newWrapper element "result[i]" ++ ";",
      "\x7d",
      "return resultArrayNapi;"] := by
  rcases helement : generator.element type with fault | element
  · simp only [packing, hpacking, helement] at h
    cases h
  · simp only [packing, hpacking, helement] at h
    exact ⟨element, rfl, (Except.ok.inj h).symm⟩

theorem body_eq_error (hextraction : ∃ lines, extractions 0 signature.arguments = .ok lines)
    (h : generator.LacksElement signature.resultType) :
    body generator className signature =
      .error (.missingElement signature.resultType.name) := by
  obtain ⟨lines, hlines⟩ := hextraction
  rw [body, bodyValues, hlines, packing_eq_error h]
  rfl

end Native

/-! ### Typed methods -/

namespace Typed

theorem method_eq_error (h : generator.LacksElement signature.resultType) :
    method generator signature = .error (.missingElement signature.resultType.name) := by
  simp only [method, statement, h.1, Generator.element_eq_error h]
  rfl

theorem exists_method_eq_ok (h : ¬ generator.LacksElement signature.resultType) :
    ∃ typed, method generator signature = .ok typed := by
  cases hpacking : signature.resultType.packing with
  | objectList =>
    obtain ⟨entry, hentry⟩ := Generator.exists_element_eq_ok hpacking h
    simp only [method, statement, hpacking, hentry]
    exact ⟨_, rfl⟩
  | nothing | numeric | boolean | string | ownedObject | passThroughObject =>
    simp only [method, statement, hpacking]
    exact ⟨_, rfl⟩

/-- The statement that hands a list back builds a wrapper for each element. -/
theorem exists_element_of_statement (hpacking : type.packing = .objectList) {call text : String}
    (h : statement generator type call = .ok text) :
    ∃ element, generator.element type = .ok element ∧
      text = "return " ++ call ++ ".map((item: any) => new " ++ element.typedName ++
        "(item));" := by
  rcases helement : generator.element type with fault | element
  · simp only [statement, hpacking, helement] at h
    cases h
  · simp only [statement, hpacking, helement] at h
    exact ⟨element, rfl, (Except.ok.inj h).symm⟩

/-- A typed method is laid out with the statement that hands its result back. -/
theorem exists_statement_of_method {text : String} (h : method generator signature = .ok text) :
    ∃ text', statement generator signature.resultType (nativeCall generator.options signature) =
      .ok text' ∧ text = layout (name generator.options signature.name) signature.arguments
        signature.resultType.typedName text' := by
  rcases hstatement : statement generator signature.resultType
    (nativeCall generator.options signature) with fault | text'
  · simp only [method, hstatement] at h
    cases h
  · simp only [method, hstatement] at h
    exact ⟨text', rfl, (Except.ok.inj h).symm⟩

/-- A property whose conversion can be filled in is refused or has its accessor. -/
theorem property_ne_broken {options : Options}
    (h : ∀ conversion, signature.resultType.propertyGetter = some conversion →
      ∀ value typed constructor, ∃ converted,
        Conversion.expand conversion value typed constructor = .ok converted) (fault : Fault) :
    property options signature ≠ .error (.broken fault) := by
  rw [property]
  split
  case isTrue =>
    simp only [getter]
    split
    case isTrue => exact nofun
    case isFalse =>
      split
      case h_1 => exact nofun
      case h_2 conversion hconversion =>
        obtain ⟨converted, hexpand⟩ := h conversion hconversion
          (options.propertyGetter ++ "('" ++ Naming.getterKey signature.name ++ "')")
          signature.resultType.typedName options.genericValueConstructor
        rw [hexpand]
        exact nofun
  case isFalse =>
    rcases setter options signature with refusal | typed
    · exact nofun
    · exact nofun

end Typed

/-! ### Signatures in operation mode -/

namespace Generator

/-- What becomes of a line that is accepted. -/
theorem expand_of_read (h : Signature.read generator.catalogue line = .ok signature) (mode : Mode) :
    generator.expand className mode line = generator.fragments className mode signature := by
  rw [expand, h]
  rfl

/-- The arguments of an accepted signature have extraction lines. -/
theorem exists_extractions_of_read (h : Signature.read generator.catalogue line = .ok signature)
    (index : Nat) : ∃ lines, Native.extractions index signature.arguments = .ok lines :=
  Native.exists_extractions_eq_ok
    (fun _ hargument ↦ TypeEntry.category_ne_void_of_isPassable
      (Signature.argument_of_read h hargument).2.1) index

theorem expand_eq_error_of_lacksElement
    (h : Signature.read generator.catalogue line = .ok signature)
    (hlacks : generator.LacksElement signature.resultType) :
    generator.expand className .operation line =
      .error (.broken (.missingElement signature.resultType.name)) := by
  rw [expand_of_read h, fragments, operationFragments,
    Native.body_eq_error (exists_extractions_of_read h 0) hlacks]
  rfl

theorem exists_body_eq_ok (className : String) (htemplates : generator.UsesStandardTemplates)
    (h : Signature.read generator.catalogue line = .ok signature)
    (hlacks : ¬ generator.LacksElement signature.resultType) :
    ∃ nativeBody, Native.body generator className signature = .ok nativeBody := by
  obtain ⟨extraction, hextraction⟩ := exists_extractions_of_read h 0
  obtain ⟨packing, hpacking⟩ := Native.exists_packing_eq_ok hlacks
  exact ⟨_, Native.body_eq_ok htemplates hextraction hpacking⟩

theorem exists_expand_eq_ok (className : String) (htemplates : generator.UsesStandardTemplates)
    (h : Signature.read generator.catalogue line = .ok signature)
    (hlacks : ¬ generator.LacksElement signature.resultType) :
    ∃ fragments, generator.expand className .operation line = .ok fragments := by
  obtain ⟨nativeBody, hbody⟩ := exists_body_eq_ok className htemplates h hlacks
  obtain ⟨typed, htyped⟩ := Typed.exists_method_eq_ok hlacks
  rw [expand_of_read h]
  exact ⟨_, fragments_operation_eq_ok_iff.2 ⟨nativeBody, typed, hbody, htyped, rfl⟩⟩

/-! ### The standard generator -/

/-- The conversions of the standard vocabulary, part by part. -/
def standardConversions : List (List Conversion.Part) :=
  [[.slot .value, .literal ".toBool()".toList], [.slot .value, .literal ".toInt()".toList],
   [.slot .value, .literal ".toDouble()".toList], [.slot .value, .literal ".toString()".toList],
   [.slot .typed, .literal ['.'], .slot .constructor, .literal ['('], .slot .value,
    .literal [')']]]

/-- What the standard catalogue promises of its result types: the elements of a list are known, and
a conversion is one of the standard ones. -/
theorem standard_results :
    (Catalogue.standard.results.all fun entry ↦ decide
      ((entry.packing = .objectList → (Catalogue.standard.elementType? entry).isSome) ∧
        (entry.propertyGetter = none ∨ ∃ parts ∈ standardConversions,
          entry.propertyGetter =
            some (String.ofList (parts.flatMap Conversion.Part.written))))) = true := by
  rfl

theorem elementType?_of_mem_standard (h : type ∈ Catalogue.standard.results)
    (hpacking : type.packing = .objectList) : (Catalogue.standard.elementType? type).isSome :=
  (of_decide_eq_true (List.all_eq_true.1 standard_results type h)).1 hpacking

theorem propertyGetter_of_mem_standard (h : type ∈ Catalogue.standard.results) :
    type.propertyGetter = none ∨ ∃ parts ∈ standardConversions,
      type.propertyGetter = some (String.ofList (parts.flatMap Conversion.Part.written)) :=
  (of_decide_eq_true (List.all_eq_true.1 standard_results type h)).2

theorem not_lacksElement_of_mem_standard (h : type ∈ Catalogue.standard.results) :
    ¬ (standard engine).LacksElement type := by
  rintro ⟨hpacking, hmissing⟩
  rw [standard_catalogue] at hmissing
  have hsome := elementType?_of_mem_standard h hpacking
  rw [Catalogue.elementType?_eq_none_iff.2 hmissing] at hsome
  cases hsome

/-- A standard conversion can be filled in, whatever it is filled in with. -/
theorem exists_expand_standard {conversion : String} (h : type ∈ Catalogue.standard.results)
    (hconversion : type.propertyGetter = some conversion) (value typed constructor : String) :
    ∃ converted, Conversion.expand conversion value typed constructor = .ok converted := by
  rcases propertyGetter_of_mem_standard h with hnone | ⟨parts, -, hparts⟩
  · rw [hnone] at hconversion
    cases hconversion
  · obtain rfl := Option.some.inj (hparts.symm.trans hconversion)
    exact ⟨_, Conversion.expand_written value typed constructor parts⟩

/-- The fragments of a signature under the standard catalogue are refused or there, but never at
fault. -/
theorem fragments_standard_ne_broken
    (h : Signature.read (standard engine).catalogue line = .ok signature) (mode : Mode)
    (fault : Fault) :
    fragments (standard engine) className mode signature ≠ .error (.broken fault) := by
  have hresult : signature.resultType ∈ Catalogue.standard.results :=
    Signature.resultType_mem_of_read h
  cases mode with
  | operation =>
    obtain ⟨fragments, hfragments⟩ := exists_expand_eq_ok className
      (usesStandardTemplates_standard engine) h
      (not_lacksElement_of_mem_standard hresult)
    rw [expand_of_read h] at hfragments
    rw [hfragments]
    exact nofun
  | property =>
    have hproperty : Typed.property {} signature ≠ .error (.broken fault) :=
      Typed.property_ne_broken
        (fun _ hconversion ↦ exists_expand_standard hresult hconversion) fault
    rw [Generator.fragments, standard_options]
    intro hfragments
    -- the outcome of the typed fragment alone is the outcome of all of them
    rcases houtcome : Typed.property {} signature with failure | typed
    · rw [houtcome] at hfragments hproperty
      obtain rfl := Except.error.inj hfragments
      exact hproperty rfl
    · rw [houtcome] at hfragments
      cases hfragments

theorem exists_generate_standard (engine : Template.DocumentedEngine) (className : String)
    (mode : Mode) (line : String) :
    ∃ answer, generate (standard engine) className mode line = .ok answer := by
  rw [generate, expand]
  rcases hread : Signature.read (standard engine).catalogue line with refusal | signature
  · exact ⟨.error refusal.diagnostic, rfl⟩
  · show ∃ answer, answered (fragments (standard engine) className mode signature) = .ok answer
    rcases houtcome : fragments (standard engine) className mode signature with
      (refusal | fault) | fragment
    · exact ⟨.error refusal.diagnostic, rfl⟩
    · exact absurd houtcome (fragments_standard_ne_broken hread mode fault)
    · exact ⟨.ok fragment, rfl⟩

/-- A run of lines none of which is at fault has an answer. -/
theorem exists_runLines_eq_ok
    (h : ∀ className mode line, ∃ answer, generator.generate className mode line = .ok answer)
    (output : Output) (lines : List String) :
    ∃ answer, generator.runLines output lines = .ok answer := by
  induction lines generalizing output with
  | nil => exact ⟨.ok output, rfl⟩
  | cons line lines ih =>
    obtain ⟨diagnostic | fragment, hline⟩ := h output.className output.mode line
    · exact ⟨.error diagnostic, runLines_cons_of_refused hline⟩
    · rw [runLines_cons_of_accepted hline]
      exact ih (output.add fragment)

theorem exists_run_standard (engine : Template.DocumentedEngine) (text : String) :
    ∃ answer, run (standard engine) text = .ok answer := by
  rw [run]
  split
  case h_1 => exact ⟨_, rfl⟩
  case h_2 first lines _ =>
    split
    case h_1 => exact ⟨_, rfl⟩
    case h_2 header _ => exact exists_runLines_eq_ok (exists_generate_standard engine) _ lines

theorem exists_render_eq_ok (htemplates : generator.UsesStandardTemplates)
    (answer : Except Diagnostic Output) : ∃ report, generator.render answer = .ok report := by
  cases answer with
  | error diagnostic => exact ⟨_, rfl⟩
  | ok output =>
    exact ⟨_, report_eq_ok htemplates output⟩

/-! ### The fault, exactly -/

/-- **The one fault of a generator.** With the standard templates and any catalogue, options, class
name and accepted line: if the result type lacks its element, the signature has the fault that says
so, in its native body and in its typed method alike; if not, it has all fragments. No argument is
of a type without values, so each has its extraction lines. The standard generator answers every
text and reports on it. -/
theorem faults_exact :
    (∀ generator : Generator, generator.UsesStandardTemplates → ∀ className line signature,
      Signature.read generator.catalogue line = .ok signature →
      (generator.LacksElement signature.resultType →
        generator.expand className .operation line =
          .error (.broken (.missingElement signature.resultType.name)) ∧
        Native.body generator className signature =
          .error (.missingElement signature.resultType.name) ∧
        Typed.method generator signature = .error (.missingElement signature.resultType.name) ∧
        (Fault.missingElement signature.resultType.name).message =
          "List type " ++ signature.resultType.name ++ " has no registered element type") ∧
      (¬ generator.LacksElement signature.resultType →
        (∃ fragments, generator.expand className .operation line = .ok fragments) ∧
        (∃ nativeBody, Native.body generator className signature = .ok nativeBody) ∧
        ∃ typed, Typed.method generator signature = .ok typed) ∧
      ∀ argument ∈ signature.arguments, argument.type.category ≠ .void ∧
        ∀ index, ∃ lines, Native.extraction argument index = .ok lines) ∧
    ∀ (engine : Template.DocumentedEngine) (text : Option String), ∃ answer report,
      run (standard engine) (text.getD "") = .ok answer ∧
        render (standard engine) answer = .ok report := by
  refine ⟨fun generator htemplates className line signature hread ↦ ⟨fun hlacks ↦ ?_,
    fun hlacks ↦ ?_, fun argument hargument ↦ ?_⟩, fun engine text ↦ ?_⟩
  · exact ⟨expand_eq_error_of_lacksElement hread hlacks,
      Native.body_eq_error (exists_extractions_of_read hread 0) hlacks,
      Typed.method_eq_error hlacks, rfl⟩
  · exact ⟨exists_expand_eq_ok className htemplates hread hlacks,
      exists_body_eq_ok className htemplates hread hlacks, Typed.exists_method_eq_ok hlacks⟩
  · have hvoid := TypeEntry.category_ne_void_of_isPassable
      (Signature.argument_of_read hread hargument).2.1
    exact ⟨hvoid, Native.exists_extraction_eq_ok hvoid⟩
  · obtain ⟨answer, hanswer⟩ := exists_run_standard engine (text.getD "")
    obtain ⟨report, hreport⟩ := exists_render_eq_ok (usesStandardTemplates_standard engine) answer
    exact ⟨answer, report, hanswer, hreport⟩

/-- A list of elements that are in no catalogue has the fault. -/
theorem faults_exact_unknownElement :
    expand {
        engine := Interpreter.engine
        catalogue := ⟨[Vocabulary.objectList "QList<QUrl>" (Vocabulary.valueObject "QUrl")]⟩ }
      "QFileDialog" .operation "// TODO: QList<QUrl> selectedUrls() const;" =
        .error (.broken (.missingElement "QList<QUrl>")) := by
  refine ((faults_exact.1 _ ⟨Interpreter.isDocumented_engine, rfl, rfl, rfl⟩ "QFileDialog" _ {
    name := "selectedUrls"
    resultType := Vocabulary.objectList "QList<QUrl>" (Vocabulary.valueObject "QUrl")
    line := "// TODO: QList<QUrl> selectedUrls() const;" } ?_).1 ⟨rfl, ?_⟩).1
  · rw [Signature.read, String.toList_ofList]
    rfl
  · intro name hname
    obtain rfl : "QUrl" = name := Option.some.inj hname
    simp [Catalogue.results, Vocabulary.objectList, Vocabulary.void]

end Generator

end BindingGlue
