import BindingGlue.Proofs.Fragments.Faults
import BindingGlue.Proofs.Naming
import BindingGlue.Proofs.Signature.BothSides

/-!
# Accessors of properties

A getter is laid out with its conversion filled in word for word (`Typed.property_of_written`), so
the call that reads the property stands in it just as it was put together, with the key in quotes.
A setter puts its key into the call that writes the property. The two keys come about in different
ways, by a cut after three characters and by a prefix that marks the name, and agree where `set`,
`is` or `get` stands before an upper-case character (`accessors_share_key`). A getter that is named
like the key itself reads the same property, unless its name has a prefix of its own: `isActive` is
the key that `setIsActive` writes, but not the one that the getter `isActive` reads.
-/

namespace BindingGlue

open Text Conversion

variable {engine : Template.DocumentedEngine} {options : Options} {signature : Signature}
  {type : TypeEntry} {parts : List Part}

namespace Typed

/-! ### Getters -/

/-- A typed method without arguments, line by line. -/
theorem layout_nil (name result statement : String) :
    layout name [] result statement = "    " ++ name ++ "(): " ++ result ++ " \x7b\n" ++
      ("        " ++ statement ++ "\n") ++ "    \x7d\n" := by
  rw [← String.toList_inj]
  simp [layout, parameters, String.intercalate_cons_cons]

/-- The accessor of a type with a conversion of literal texts and plain fields. -/
theorem property_of_written (hvoid : signature.resultType.isVoid = false)
    (harguments : signature.arguments = [])
    (hgetter : signature.resultType.propertyGetter =
      some (String.ofList (parts.flatMap Part.written))) :
    property options signature = .ok (layout (name options signature.name) []
      signature.resultType.typedName ("return " ++ String.ofList (parts.flatMap (Part.filled
        (slotValues (options.propertyGetter ++ "('" ++ Naming.getterKey signature.name ++ "')")
          signature.resultType.typedName options.genericValueConstructor))) ++ ";")) := by
  have hresult : signature.hasResult = true := by simp [Signature.hasResult, hvoid]
  rw [property, if_pos hresult]
  simp only [getter, harguments, List.isEmpty_nil, Bool.not_true, Bool.false_eq_true, if_false,
    hgetter, expand_written]

end Typed

namespace Generator

/-- A line that is read has the fragments of its signature. -/
theorem generate_property_of_read {generator : Generator} {className line text : String}
    (hread : Signature.read generator.catalogue line = .ok signature)
    (htext : Typed.property generator.options signature = .ok text) :
    generator.generate className .property line = .ok (.ok { typed := text }) :=
  generate_eq_ok_iff.2 ⟨signature, hread, fragments_property_eq_ok_iff.2 ⟨text, htext, rfl⟩⟩

/-- **A conversion is filled in word for word.** Let a type have a conversion of literal texts, with
their braces doubled, and plain fields. Every signature that returns the type and has no arguments
has its accessor, and so has every line that is read as such a signature. Between the head and the
closing brace there is the conversion, with the literal texts as they are and the values in the
places of their fields, whatever the values look like. -/
theorem getter_verbatim (generator : Generator) (parts : List Part) {signature : Signature}
    (hvoid : signature.resultType.isVoid = false) (harguments : signature.arguments = [])
    (hgetter : signature.resultType.propertyGetter =
      some (String.ofList (parts.flatMap Part.written))) :
    ∃ text, Typed.property generator.options signature = .ok text ∧
      (∀ className line, Signature.read generator.catalogue line = .ok signature →
        generator.generate className .property line = .ok (.ok { typed := text })) ∧
      text = "    " ++ Typed.name generator.options signature.name ++ "(): " ++
          signature.resultType.typedName ++ " \x7b\n" ++
        ("        " ++ ("return " ++ String.ofList (parts.flatMap (Part.filled (slotValues
          (generator.options.propertyGetter ++ "('" ++ Naming.getterKey signature.name ++ "')")
          signature.resultType.typedName generator.options.genericValueConstructor))) ++ ";") ++
            "\n") ++
        "    \x7d\n" := by
  refine ⟨_, Typed.property_of_written hvoid harguments hgetter, fun className line hread ↦ ?_,
    Typed.layout_nil _ _ _⟩
  exact generate_property_of_read hread (Typed.property_of_written hvoid harguments hgetter)

/-- A getter of a type whose conversion has braces around its fields. -/
def bracedGetter : Signature where
  name := "isOpen"
  resultType := { Vocabulary.valueObject "Box" with
    propertyGetter :=
      some "\x7b\x7b\x7bvalue\x7d\x7d\x7d\x7b\x7btyped\x7d\x7d.\x7bfrom_generic\x7d" }
  line := "// TODO: Box isOpen()"

/-- Options whose texts look like fields. -/
def bracedOptions : Options where
  propertyGetter := "\x7btyped\x7d"
  genericValueConstructor := "\x7b\x7b"

/-- A value that looks like a field is not filled in again. -/
theorem getter_verbatim_braced :
    bracedGetter.resultType.propertyGetter = some (String.ofList
      ([Part.literal ['\x7b'], .slot .value, .literal "\x7d\x7btyped\x7d.".toList,
        .slot .constructor].flatMap Part.written)) ∧
    generate {
        engine := Interpreter.engine
        options := bracedOptions
        catalogue := ⟨[bracedGetter.resultType]⟩ } "QLabel"
        .property "// TODO: Box isOpen()" =
      .ok (.ok { typed := "    isOpen(): Box \x7b\n" ++
        "        return \x7b\x7btyped\x7d('open')\x7d\x7btyped\x7d.\x7b\x7b;\n" ++
        "    \x7d\n" }) := by
  have hgetter : bracedGetter.resultType.propertyGetter = some (String.ofList
      ([Part.literal ['\x7b'], .slot .value, .literal "\x7d\x7btyped\x7d.".toList,
        .slot .constructor].flatMap Part.written)) := by
    rfl
  have hread : Signature.read ⟨[bracedGetter.resultType]⟩ "// TODO: Box isOpen()" =
      .ok bracedGetter := by
    rfl
  refine ⟨hgetter, ?_⟩
  obtain ⟨text, -, hgenerate, rfl⟩ := getter_verbatim
    {
      engine := Interpreter.engine
      options := bracedOptions
      catalogue := ⟨[bracedGetter.resultType]⟩ } _ rfl rfl hgetter
  rw [hgenerate "QLabel" _ hread]
  rfl

/-! ### Standard accessors -/

/-- A standard conversion is a frame around the value, which only the type says. -/
theorem exists_conversion_frame (hmem : type ∈ Catalogue.standard.results)
    (hgetter : type.propertyGetter ≠ none) (typed constructor : String) :
    ∃ parts : List Part, type.propertyGetter = some (String.ofList (parts.flatMap Part.written)) ∧
      ∃ front back : String, ∀ value, String.ofList (parts.flatMap (Part.filled
        (slotValues value typed constructor))) = front ++ value ++ back := by
  obtain ⟨parts, hparts, hwritten⟩ := (propertyGetter_of_mem_standard hmem).resolve_left hgetter
  refine ⟨parts, hwritten, ?_⟩
  simp only [standardConversions, List.mem_cons, List.not_mem_nil, or_false] at hparts
  rcases hparts with rfl | rfl | rfl | rfl | rfl
  · exact ⟨"", ".toBool()", fun value ↦ by simp [Part.filled, slotValues]⟩
  · exact ⟨"", ".toInt()", fun value ↦ by simp [Part.filled, slotValues]⟩
  · exact ⟨"", ".toDouble()", fun value ↦ by simp [Part.filled, slotValues]⟩
  · exact ⟨"", ".toString()", fun value ↦ by simp [Part.filled, slotValues]⟩
  · exact ⟨typed ++ "." ++ constructor ++ "(", ")",
      fun value ↦ by simp [Part.filled, slotValues, ← String.toList_inj]⟩

/-- What the standard catalogue promises of the types that are read as properties: values of them
can be passed, and their names stand for them on both sides. -/
theorem standard_readable : ∀ type ∈ Catalogue.standard.results, type.propertyGetter ≠ none →
    type.isVoid = false ∧ lastNamed? Catalogue.standard.results type.name = some type ∧
      lastNamed? Catalogue.standard.arguments type.name = some type := by
  decide

end Generator

namespace Signature

variable {name word argument : String}

theorem isName_append (hname : IsName name.toList) (hword : ∀ c ∈ word.toList, isWord c) :
    IsName (name ++ word).toList := by
  obtain ⟨c, cs, hcons, hstart, hcs⟩ := hname
  refine ⟨c, cs ++ word.toList, by simp [hcons], hstart, fun d hd ↦ ?_⟩
  rcases List.mem_append.1 hd with hd | hd
  · exact hcs d hd
  · exact hword d hd

/-- A line of a getter is read as what it says. -/
theorem read_getterLine (hmem : type ∈ Catalogue.standard.results)
    (hgetter : type.propertyGetter ≠ none) (hname : IsName name.toList) :
    read .standard ("// TODO: " ++ type.name ++ " " ++ name ++ "()") = .ok {
      name
      resultType := type
      line := "// TODO: " ++ type.name ++ " " ++ name ++ "()" } := by
  obtain ⟨-, hresult, -⟩ := Generator.standard_readable type hmem hgetter
  rw [← render_noArguments]
  exact IsPrintable.read_eq ⟨hname, isReadable_of_mem_standard hmem hresult, by simp, .nil⟩

/-- A line of a setter is read as what it says. -/
theorem read_setterLine (hmem : type ∈ Catalogue.standard.results)
    (hgetter : type.propertyGetter ≠ none) (hname : IsName name.toList) (hne : argument ≠ "")
    (hword : ∀ c ∈ argument.toList, isWord c) :
    read .standard ("// TODO: void " ++ name ++ "(" ++ type.name ++ " " ++ argument ++ ")") = .ok {
      name
      resultType := Vocabulary.void
      arguments := [{ type, name := argument }]
      line := "// TODO: void " ++ name ++ "(" ++ type.name ++ " " ++ argument ++ ")" } := by
  obtain ⟨-, -, hfound⟩ := Generator.standard_readable type hmem hgetter
  obtain ⟨-, -, hcomma, hequals⟩ := standard_names type hmem
  have hvoid : lastNamed? Catalogue.standard.results "void" = some Vocabulary.void := by
    rfl
  have hresult : Vocabulary.void.IsReadable Catalogue.standard.results :=
    isReadable_of_mem_standard List.mem_cons_self hvoid
  rw [← render_oneArgument name argument type (show Vocabulary.void.name = "void" from rfl)]
  refine IsPrintable.read_eq ⟨hname, hresult, fun given hgiven ↦ ?_, List.nodup_singleton _⟩
  obtain rfl := List.mem_singleton.1 hgiven
  exact ⟨isReadable_of_mem_standard hmem hfound, hcomma, hequals, hne, hword⟩

end Signature

namespace Generator

/-- **Accessors share their key.** Let `set`, `is` and `get` stand before a title that starts in
upper case. The setter writes and both getters read the title with its first character in lower
case. A getter of just that name reads the same key exactly if no prefix of its own marks it.

Under the standard catalogue, if the title is made of word characters, the lines of the three
methods have accessors for every type that can be read as a property, and the calls in them have the
same key in quotes. Around the call of a getter there is a frame that the type decides. -/
theorem accessors_share_key :
    (∀ title : String, StartsUpper title.toList →
      Naming.setterKey ("set" ++ title) = String.ofList (lowerFirst title.toList) ∧
      Naming.getterKey ("is" ++ title) = String.ofList (lowerFirst title.toList) ∧
      Naming.getterKey ("get" ++ title) = String.ofList (lowerFirst title.toList) ∧
      (Naming.getterKey (String.ofList (lowerFirst title.toList)) =
          String.ofList (lowerFirst title.toList) ↔
        ¬ (Naming.Marks "is" (String.ofList (lowerFirst title.toList)) ∨
          Naming.Marks "get" (String.ofList (lowerFirst title.toList))))) ∧
    ∀ (engine : Template.Engine) (options : Options) (shelf : Template.Shelf) (className : String),
      ∀ type ∈ Catalogue.standard.results, type.propertyGetter ≠ none →
        ∃ front back : String, ∀ title argument : String, StartsUpper title.toList →
          (∀ c ∈ title.toList, isWord c) → argument ≠ "" → (∀ c ∈ argument.toList, isWord c) →
          generate { engine, options, shelf } className .property
              ("// TODO: void " ++ ("set" ++ title) ++ "(" ++ type.name ++ " " ++ argument ++ ")") =
            .ok (.ok {
              typed := Typed.layout (Typed.name options ("set" ++ title))
                [{ type, name := argument }] "void"
                (options.propertySetter ++ "('" ++ String.ofList (lowerFirst title.toList) ++
                  "', " ++ Typed.unwrap options { type, name := argument } ++ ");") }) ∧
          ∀ head ∈ ["is", "get"],
            generate { engine, options, shelf } className .property
                ("// TODO: " ++ type.name ++ " " ++ (head ++ title) ++ "()") =
              .ok (.ok {
                typed := Typed.layout (Typed.name options (head ++ title)) [] type.typedName
                  ("return " ++ (front ++ (options.propertyGetter ++ "('" ++
                    String.ofList (lowerFirst title.toList) ++ "')") ++ back) ++ ";") }) := by
  have his : ∀ title : String, StartsUpper title.toList →
      Naming.getterKey ("is" ++ title) = String.ofList (lowerFirst title.toList) :=
    fun title htitle ↦ Naming.getterKey_is htitle (String.toList_append ..)
  have hget : ∀ title : String, StartsUpper title.toList →
      Naming.getterKey ("get" ++ title) = String.ofList (lowerFirst title.toList) :=
    fun title htitle ↦ Naming.getterKey_get htitle (String.toList_append ..)
  refine ⟨fun title htitle ↦ ⟨Naming.setterKey_append title, his title htitle, hget title htitle,
    Naming.getterKey_eq_self_iff⟩, fun engine options shelf className type hmem hgetter ↦ ?_⟩
  obtain ⟨parts, hwritten, front, back, hframe⟩ :=
    exists_conversion_frame hmem hgetter type.typedName options.genericValueConstructor
  obtain ⟨hvoid, -, -⟩ := standard_readable type hmem hgetter
  refine ⟨front, back, fun title argument htitle hword hne hargument ↦ ⟨?_, fun head hhead ↦ ?_⟩⟩
  · have hname : Signature.IsName ("set" ++ title).toList :=
      Signature.isName_append ⟨'s', ['e', 't'], rfl, rfl, by simp [isWord]⟩ hword
    rw [← Naming.setterKey_append]
    exact generate_property_of_read (Signature.read_setterLine hmem hgetter hname hne hargument) rfl
  · have hname : Signature.IsName (head ++ title).toList ∧
        Naming.getterKey (head ++ title) = String.ofList (lowerFirst title.toList) := by
      simp only [List.mem_cons, List.not_mem_nil, or_false] at hhead
      rcases hhead with rfl | rfl
      · exact ⟨Signature.isName_append ⟨'i', ['s'], rfl, rfl, by simp [isWord]⟩ hword,
          his title htitle⟩
      · exact ⟨Signature.isName_append ⟨'g', ['e', 't'], rfl, rfl, by simp [isWord]⟩ hword,
          hget title htitle⟩
    rw [← hname.2, ← hframe]
    exact generate_property_of_read (Signature.read_getterLine hmem hgetter hname.1)
      (Typed.property_of_written hvoid rfl hwritten)

/-- The dotted capital has a lower case of two characters, and both keys have them. -/
theorem accessors_share_key_dotted :
    (StartsUpper "\u0130d".toList ∧ ∀ c ∈ "\u0130d".toList, isWord c) ∧
    Naming.getterKey ("get" ++ "\u0130d") = "i\u0307d" ∧
    generate (.standard Interpreter.documented) "QLabel" .property
        ("// TODO: void " ++ ("set" ++ "\u0130d") ++ "(" ++ "QRect" ++ " " ++ "area" ++ ")") =
      .ok (.ok { typed := "    set\u0130d(area: QRect): void \x7b\n" ++
        "        this.setProperty('i\u0307d', area.native);\n" ++
        "    \x7d\n" }) ∧
    ∃ front back : String,
      generate (.standard Interpreter.documented) "QLabel" .property
          ("// TODO: " ++ "QRect" ++ " " ++ ("is" ++ "\u0130d") ++ "()") =
        .ok (.ok {
          typed := Typed.layout "is\u0130d" [] "QRect"
            ("return " ++ (front ++ "this.property('i\u0307d')" ++ back) ++ ";") }) := by
  have htitle : StartsUpper "\u0130d".toList := ⟨'\u0130', rfl, rfl⟩
  have hword : ∀ c ∈ "\u0130d".toList, isWord c := by
    have hall : "\u0130d".toList.all isWord = true := rfl
    exact List.all_eq_true.1 hall
  have hargument : ∀ c ∈ "area".toList, isWord c := by simp [isWord]
  have hmem : Vocabulary.valueObject "QRect" ∈ Catalogue.standard.results := by
    simp [Catalogue.results, Catalogue.standard, Vocabulary.standard]
  obtain ⟨front, back, hshared⟩ :=
    accessors_share_key.2 Interpreter.engine {} [] "QLabel" (Vocabulary.valueObject "QRect") hmem
      (by decide)
  obtain ⟨hsetter, hgetter⟩ := hshared "\u0130d" "area" htitle hword (by decide) hargument
  refine ⟨⟨htitle, hword⟩, (accessors_share_key.1 _ htitle).2.2.1.trans rfl,
    hsetter.trans rfl, front, back, ?_⟩
  exact hgetter "is" List.mem_cons_self

end Generator

end BindingGlue
