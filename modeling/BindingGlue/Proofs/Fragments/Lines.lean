import BindingGlue.Proofs.Batch.Sections
import BindingGlue.Proofs.Fragments.Calls
import BindingGlue.Proofs.Naming
import BindingGlue.Proofs.Text.Lines

/-!
# The lines of a fragment

Under the standard catalogue every text that a fragment is put together from stands on one line, so
that the lines of a fragment are the ones it was laid out with: a declaration and a registration are
one line, a native body is closed by the only line that is a lone brace, and a typed fragment by its
only empty line. None of these lines is the rule of a report, as each is empty or begins with a
blank or a letter, or is the brace.
-/

namespace BindingGlue

open Text

variable {engine : Template.DocumentedEngine} {className line : String} {signature : Signature}
  {argument : Argument} {arguments : List Argument} {type : TypeEntry} {lines : List String}

/-! ### Texts on one line -/

/-- The texts that code is put together from stand on one line. -/
structure TypeEntry.OnOneLine (type : TypeEntry) : Prop where
  nativeSpelling : Text.OnOneLine type.nativeSpelling.toList
  baseNative : Text.OnOneLine type.baseNative.toList
  wrapText : Text.OnOneLine type.wrapText.toList
  accessorText : Text.OnOneLine type.accessorText.toList
  typedName : Text.OnOneLine type.typedName.toList

/-- No text of a standard type has the end of a line in it. -/
theorem onOneLine_standard : ∀ type ∈ Catalogue.standard.results,
    OnOneLine type.nativeSpelling.toList ∧ OnOneLine type.wrapText.toList ∧
      OnOneLine type.accessorText.toList ∧ OnOneLine type.typedName.toList := by
  decide +kernel

theorem onOneLine_of_mem_standard (h : type ∈ Catalogue.standard.results) : type.OnOneLine := by
  obtain ⟨hnative, hwrap, haccessor, htyped⟩ := onOneLine_standard type h
  exact ⟨hnative, fun c hc ↦ hnative c (mem_of_mem_baseNative hc), hwrap, haccessor, htyped⟩

/-- The standard type of no value is `void` on the typed surface as well. -/
theorem typedName_of_isVoid : ∀ type ∈ Catalogue.standard.results,
    type.isVoid → type.typedName = "void" := by
  decide +kernel

/-- An argument whose texts stand on one line. -/
structure Argument.OnOneLine (argument : Argument) : Prop where
  type : argument.type.OnOneLine
  name : Text.OnOneLine argument.name.toList

/-- The ends of lines are control characters. -/
theorem toNat_of_isLineEnd {c : Char} (hc : isLineEnd c) : 0 < c.toNat ∧ c.toNat < 0x30 := by
  rw [isLineEnd, Bool.or_eq_true, beq_iff_eq, beq_iff_eq] at hc
  rcases hc with rfl | rfl
  all_goals decide

theorem onOneLine_toList_intercalate {separator : String} {pieces : List String}
    (hseparator : OnOneLine separator.toList) (hpieces : ∀ piece ∈ pieces, OnOneLine piece.toList) :
    OnOneLine (separator.intercalate pieces).toList :=
  onOneLine_of_not_mem fun _ hc ↦ not_mem_intercalate (hseparator.not_mem hc)
    fun piece hpiece ↦ (hpieces piece hpiece).not_mem hc

/-- A line that begins with a blank or a letter is no rule, and no lone brace. -/
theorem ne_rule_of_head? {line : String} (h : ∀ c ∈ line.toList.head?, c = ' ' ∨ c = 'N') :
    line ≠ Section.rule ∧ line.toList ≠ ['\x7d'] := by
  have hslash : ∀ c ∈ line.toList.head?, c ≠ '/' ∧ c ≠ '\x7d' := by
    intro c hc
    rcases h c hc with rfl | rfl
    all_goals decide
  constructor
  · rintro rfl
    exact (hslash '/' rfl).1 rfl
  · intro heq
    rw [heq] at hslash
    exact (hslash '\x7d' rfl).2 rfl

/-! ### Native fragments -/

namespace Native

theorem onOneLine_extraction (h : argument.OnOneLine) {index : Nat}
    (hlines : extraction argument index = .ok lines) : ∀ line ∈ lines, OnOneLine line.toList := by
  have hindex : OnOneLine (Nat.toDigits 10 index) := by
    rw [← Nat.toList_repr]
    exact onOneLine_of_isWord isWord_of_mem_repr
  have hname := h.name
  obtain ⟨hnative, hbase, hwrap, haccessor, -⟩ := h.type
  cases hcategory : argument.type.category with
  | void => simp [extraction, hcategory] at hlines
  | boolean | signedInteger | unsignedInteger | floatingPoint | string | enumeration | object =>
    simp only [extraction, hcategory, Except.ok.injEq] at hlines
    subst hlines
    simp +decide [hindex, hname, hnative, hbase, hwrap, haccessor]

theorem onOneLine_extractions (h : ∀ argument ∈ arguments, argument.OnOneLine) {index : Nat}
    (hlines : extractions index arguments = .ok lines) : ∀ line ∈ lines, OnOneLine line.toList :=
  forall_mem_extractions
    (fun argument hargument _ _ ↦ onOneLine_extraction (h argument hargument)) hlines

theorem onOneLine_packing (h : type ∈ Catalogue.standard.results)
    (hlines : packing (.standard engine) type = .ok lines) :
    ∀ line ∈ lines, OnOneLine line.toList := by
  refine fun line hline ↦ onOneLine_of_not_mem fun c hc ↦ ?_
  have htexts : ∀ type ∈ Catalogue.standard.results,
      c ∉ type.baseNative.toList ∧ c ∉ type.wrapText.toList := by
    intro type htype
    have honeLine := onOneLine_of_mem_standard htype
    exact ⟨honeLine.baseNative.not_mem hc, honeLine.wrapText.not_mem hc⟩
  exact not_mem_packing (.inr hc) htexts h hlines line hline

theorem onOneLine_invocation (hname : OnOneLine signature.name.toList)
    (hresult : OnOneLine signature.resultType.nativeSpelling.toList)
    (harguments : ∀ argument ∈ signature.arguments, argument.OnOneLine) :
    OnOneLine (invocation {} signature).toList := by
  refine onOneLine_of_not_mem fun c hc ↦ ?_
  have hfixed : OnOneLine " result = this->instance->(*, );".toList := by decide
  exact not_mem_invocation (hfixed.not_mem hc) (hname.not_mem hc) (hresult.not_mem hc)
    fun argument hargument ↦ (harguments argument hargument).name.not_mem hc

theorem onOneLine_nativeBodyLines {wrapper name argc invocation : String}
    {extraction packing : List String} (hwrapper : OnOneLine wrapper.toList)
    (hname : OnOneLine name.toList) (hargc : OnOneLine argc.toList)
    (hextraction : ∀ line ∈ extraction, OnOneLine line.toList)
    (hinvocation : OnOneLine invocation.toList)
    (hpacking : ∀ line ∈ packing, OnOneLine line.toList) :
    ∀ line ∈ Template.nativeBodyLines wrapper name argc extraction invocation packing,
      OnOneLine line.toList := by
  have hindented : ∀ {texts : List String}, (∀ text ∈ texts, OnOneLine text.toList) →
      ∀ line ∈ texts.map ("  " ++ ·), OnOneLine line.toList := by
    intro texts htexts line hline
    obtain ⟨text, htext, rfl⟩ := List.mem_map.1 hline
    simp +decide [htexts text htext]
  have hopening : ∀ line ∈ Template.openingLines wrapper name argc, OnOneLine line.toList := by
    simp +decide [Template.openingLines, hwrapper, hname, hargc]
  intro line hline
  simp only [Template.nativeBodyLines, List.mem_append, List.mem_singleton] at hline
  rcases hline with (((hline | hline) | rfl) | hline) | rfl
  · exact hopening line hline
  · exact hindented hextraction line hline
  · simp +decide [hinvocation]
  · exact hindented hpacking line hline
  · decide

/-- Every line of a native body is empty or begins with a blank or a letter, but for the last. -/
theorem isDelimited_nativeBodyLines {wrapper name argc invocation : String}
    {extraction packing : List String}
    (hlines : ∀ line ∈ Template.nativeBodyLines wrapper name argc extraction invocation packing,
      OnOneLine line.toList) :
    IsDelimited (· == ['\x7d']) 0 ("\n".intercalate
      (Template.nativeBodyLines wrapper name argc extraction invocation packing)) := by
  have hfront : ∀ line ∈ Template.openingLines wrapper name argc ++ extraction.map ("  " ++ ·) ++
      ["  " ++ invocation] ++ packing.map ("  " ++ ·),
      ∀ c ∈ line.toList.head?, c = ' ' ∨ c = 'N' := by
    intro line hline
    simp only [List.mem_append, List.mem_map, List.mem_singleton] at hline
    rcases hline with ((hline | ⟨text, -, rfl⟩) | rfl) | ⟨text, -, rfl⟩
    · revert line
      simp [Template.openingLines]
    all_goals simp
  have hbrace : EndsInFeeds 0 "\x7d" := ⟨[], '\x7d', rfl, by decide⟩
  refine isDelimited_intercalate (fun line hline ↦ ?_) (by decide)
    (endsInFeeds_intercalate_concat hbrace _)
  obtain ⟨hrule, hbrace⟩ := ne_rule_of_head? (hfront line hline)
  exact ⟨(hlines line (List.mem_append_left _ hline)).lineFeed_notMem,
    beq_eq_false_iff_ne.2 hbrace, hrule⟩

theorem onOneLine_declaration (hname : OnOneLine signature.name.toList) :
    OnOneLine (declaration signature).toList := by
  simp +decide [declaration, hname]

theorem onOneLine_registration (hclass : OnOneLine className.toList)
    (hname : OnOneLine signature.name.toList) :
    OnOneLine (registration {} className signature).toList := by
  rw [registration_standard]
  simp +decide [hname, hclass]

theorem isDelimited_declaration (hname : OnOneLine signature.name.toList) :
    IsDelimited (fun _ ↦ true) 0 (declaration signature) :=
  isDelimited_of_line (by simp [declaration]) (onOneLine_declaration hname).lineFeed_notMem
    (ne_rule_of_head? (by simp [declaration])).1

theorem isDelimited_registration (hclass : OnOneLine className.toList)
    (hname : OnOneLine signature.name.toList) :
    IsDelimited (fun _ ↦ true) 0 (registration {} className signature) :=
  isDelimited_of_line (by simp [registration_standard])
    (onOneLine_registration hclass hname).lineFeed_notMem
    (ne_rule_of_head? (by simp [registration_standard])).1

end Native

/-! ### Typed fragments -/

namespace Typed

theorem onOneLine_parameters (h : ∀ argument ∈ arguments, argument.OnOneLine) :
    OnOneLine (parameters arguments).toList := by
  refine onOneLine_toList_intercalate (by decide) fun piece hpiece ↦ ?_
  obtain ⟨argument, hargument, rfl⟩ := List.mem_map.1 hpiece
  have hname := (h argument hargument).name
  have htyped := (h argument hargument).type.typedName
  simp +decide [hname, htyped]

/-- The first line of a typed fragment. -/
def head (name : String) (arguments : List Argument) (result : String) : String :=
  "    " ++ name ++ "(" ++ parameters arguments ++ "): " ++ result ++ " \x7b"

theorem onOneLine_head {name result : String} (hname : OnOneLine name.toList)
    (harguments : ∀ argument ∈ arguments, argument.OnOneLine) (hresult : OnOneLine result.toList) :
    OnOneLine (head name arguments result).toList := by
  have hparameters := onOneLine_parameters harguments
  simp +decide [head, hname, hparameters, hresult]

theorem layout_eq_intercalate (name : String) (arguments : List Argument)
    (result statement : String) :
    layout name arguments result statement = "\n".intercalate
      ([head name arguments result, "        " ++ statement, "    \x7d"] ++ [""]) :=
  rfl

/-- A typed fragment has four lines, with its statement on the second one. -/
theorem linesOf_layout {name result statement : String}
    (hhead : '\n' ∉ (head name arguments result).toList) (hstatement : '\n' ∉ statement.toList) :
    linesOf (layout name arguments result statement) =
      [(head name arguments result).toList, ("        " ++ statement).toList, "    \x7d".toList,
        []] := by
  rw [layout_eq_intercalate, linesOf_intercalate_of_notMem (by simp) (by simp [hhead, hstatement])]
  simp

/-- A typed fragment is closed by the empty line behind its brace. -/
theorem isDelimited_layout {name result statement : String}
    (hhead : '\n' ∉ (head name arguments result).toList) (hstatement : '\n' ∉ statement.toList) :
    IsDelimited (·.isEmpty) 1 (layout name arguments result statement) := by
  have hblank : (head name arguments result).toList.head? = some ' ' := by
    simp [head]
  have hfront : ∀ line ∈ [head name arguments result, "        " ++ statement, "    \x7d"],
      '\n' ∉ line.toList ∧ line.toList.head? = some ' ' := by
    simp [hhead, hblank, hstatement]
  rw [layout_eq_intercalate]
  refine isDelimited_intercalate (fun line hline ↦ ?_) (by decide) ?_
  · obtain ⟨hfeed, hblank⟩ := hfront line hline
    have hcloses : line.toList.isEmpty = false := by
      cases hchars : line.toList with
      | nil => simp [hchars] at hblank
      | cons c cs => rfl
    exact ⟨hfeed, hcloses, (ne_rule_of_head? (by simp [hblank])).1⟩
  · refine ⟨(head name arguments result ++ "\n" ++ ("        " ++ statement) ++ "\n" ++
      "    ").toList, '\x7d', ?_, by decide⟩
    simp [String.intercalate_cons_cons]

theorem onOneLine_unwrap (hname : OnOneLine argument.name.toList) :
    OnOneLine (unwrap {} argument).toList := by
  rw [unwrap]
  split
  · simp +decide [hname]
  · exact hname

theorem onOneLine_nativeCall (hname : OnOneLine signature.name.toList)
    (harguments : ∀ argument ∈ signature.arguments, argument.OnOneLine) :
    OnOneLine (nativeCall {} signature).toList := by
  have hlist : OnOneLine (", ".intercalate (signature.arguments.map (unwrap {}))).toList := by
    refine onOneLine_toList_intercalate (by decide) fun piece hpiece ↦ ?_
    obtain ⟨argument, hargument, rfl⟩ := List.mem_map.1 hpiece
    exact onOneLine_unwrap (harguments argument hargument).name
  rw [nativeCall]
  generalize ", ".intercalate (signature.arguments.map (unwrap {})) = list at hlist ⊢
  simp +decide [Options.typedNative, hname, hlist]

theorem onOneLine_statement (h : type ∈ Catalogue.standard.results) {call text : String}
    (hcall : OnOneLine call.toList) (htext : statement (.standard engine) type call = .ok text) :
    OnOneLine text.toList := by
  have htyped := (onOneLine_of_mem_standard h).typedName
  cases hpacking : type.packing with
  | nothing | numeric | boolean | string | ownedObject | passThroughObject =>
    simp only [statement, hpacking, Except.ok.injEq] at htext
    subst htext
    simp +decide [hcall, htyped]
  | objectList =>
    obtain ⟨element, helement, rfl⟩ := exists_element_of_statement hpacking htext
    have hmem : element ∈ Catalogue.standard.results := Native.element_mem_results helement
    simp +decide [hcall, (onOneLine_of_mem_standard hmem).typedName]

/-- A standard conversion writes its value on the line that it is on. -/
theorem onOneLine_expand (h : type ∈ Catalogue.standard.results) {conversion : String}
    (hconversion : type.propertyGetter = some conversion) {value typed constructor text : String}
    (hvalue : OnOneLine value.toList) (htyped : OnOneLine typed.toList)
    (hconstructor : OnOneLine constructor.toList)
    (htext : Conversion.expand conversion value typed constructor = .ok text) :
    OnOneLine text.toList := by
  rcases Generator.propertyGetter_of_mem_standard h with hnone | ⟨parts, hmem, hparts⟩
  · rw [hnone] at hconversion
    cases hconversion
  · obtain rfl := Option.some.inj (hparts.symm.trans hconversion)
    rw [Conversion.expand_written] at htext
    obtain rfl := Except.ok.inj htext
    rw [String.toList_ofList]
    simp only [Generator.standardConversions, List.mem_cons, List.not_mem_nil, or_false] at hmem
    rcases hmem with rfl | rfl | rfl | rfl | rfl
    all_goals
      simp +decide [Conversion.Part.filled, Conversion.slotValues, hvalue, htyped, hconstructor]

/-- The text is laid out as the typed method of the signature, with a statement on one line. -/
def IsLaidOut (signature : Signature) (text : String) : Prop :=
  ∃ statement : String, OnOneLine statement.toList ∧
    text = layout (name {} signature.name) signature.arguments signature.resultType.typedName
      statement

end Typed

/-! ### The fragments of a line -/

/-- The fragments of a signature. All but the typed one may be missing. -/
structure Fragments.AreOf (fragments : Fragments) (engine : Template.DocumentedEngine)
    (className : String) (signature : Signature) : Prop where
  declaration : ∀ text ∈ fragments.declaration, text = Native.declaration signature
  registration : ∀ text ∈ fragments.registration, text = Native.registration {} className signature
  nativeBody : ∀ text ∈ fragments.nativeBody,
    Native.body (.standard engine) className signature = .ok text
  typed : Typed.IsLaidOut signature fragments.typed

/-- Fragments each of which is told apart from those of other lines in the way of its kind. -/
structure Fragments.AreDelimited (fragments : Fragments) : Prop where
  declaration : ∀ text ∈ fragments.declaration, IsDelimited (fun _ ↦ true) 0 text
  registration : ∀ text ∈ fragments.registration, IsDelimited (fun _ ↦ true) 0 text
  nativeBody : ∀ text ∈ fragments.nativeBody, IsDelimited (· == ['\x7d']) 0 text
  typed : IsDelimited (·.isEmpty) 1 fragments.typed

namespace Generator

variable {fragments : Fragments} {text : String}

/-- The names and types of a signature that was read stand on one line. -/
theorem onOneLine_of_read (hread : Signature.read Catalogue.standard line = .ok signature) :
    OnOneLine signature.name.toList ∧ ∀ argument ∈ signature.arguments, argument.OnOneLine := by
  constructor
  · exact onOneLine_of_isWord fun c hc ↦ (Signature.isName_of_read hread).isWord_of_mem hc
  · intro argument hargument
    obtain ⟨hentry, -, hname⟩ := Signature.argument_of_read hread hargument
    exact ⟨onOneLine_of_mem_standard (List.mem_cons_of_mem _ hentry), onOneLine_of_isWord hname⟩

/-- The body of a signature that was read is laid out from lines. -/
theorem exists_bodyLines_of_read (hclass : OnOneLine className.toList)
    (hread : Signature.read Catalogue.standard line = .ok signature)
    (hbody : Native.body (.standard engine) className signature = .ok text) :
    ∃ extraction packing, Native.extractions 0 signature.arguments = .ok extraction ∧
      Native.packing (.standard engine) signature.resultType = .ok packing ∧
      text = "\n".intercalate (Template.nativeBodyLines (className ++ "Wrap") signature.name
        signature.arguments.length.repr extraction (Native.invocation {} signature) packing) ∧
      ∀ line ∈ Template.nativeBodyLines (className ++ "Wrap") signature.name
        signature.arguments.length.repr extraction (Native.invocation {} signature) packing,
        OnOneLine line.toList := by
  obtain ⟨hname, harguments⟩ := onOneLine_of_read hread
  have hresult := Signature.resultType_mem_of_read hread
  have hstandard : Signature.read (catalogue (.standard engine)) line = .ok signature := hread
  obtain ⟨extraction, hextraction⟩ := exists_extractions_of_read hstandard 0
  obtain ⟨packing, hpacking, -⟩ := Native.exists_packing_standard hresult
  have hcount : OnOneLine signature.arguments.length.repr.toList :=
    onOneLine_of_isWord isWord_of_mem_repr
  rw [Native.body_eq_ok (usesStandardTemplates_standard engine) hextraction hpacking] at hbody
  exact ⟨extraction, packing, hextraction, hpacking, (Except.ok.inj hbody).symm,
    Native.onOneLine_nativeBodyLines (by simp +decide [hclass]) hname hcount
      (Native.onOneLine_extractions harguments hextraction)
      (Native.onOneLine_invocation hname (onOneLine_of_mem_standard hresult).nativeSpelling
        harguments)
      (Native.onOneLine_packing hresult hpacking)⟩

theorem isDelimited_body (hclass : OnOneLine className.toList)
    (hread : Signature.read Catalogue.standard line = .ok signature)
    (hbody : Native.body (.standard engine) className signature = .ok text) :
    IsDelimited (· == ['\x7d']) 0 text := by
  obtain ⟨extraction, packing, -, -, rfl, hlines⟩ := exists_bodyLines_of_read hclass hread hbody
  exact Native.isDelimited_nativeBodyLines hlines

/-- The method that a signature stands for has its statement on one line. -/
theorem isLaidOut_method (hread : Signature.read Catalogue.standard line = .ok signature)
    (hmethod : Typed.method (.standard engine) signature = .ok text) :
    Typed.IsLaidOut signature text := by
  obtain ⟨hname, harguments⟩ := onOneLine_of_read hread
  have hresult := Signature.resultType_mem_of_read hread
  have hcall := Typed.onOneLine_nativeCall hname harguments
  obtain ⟨statement, hstatement, rfl⟩ := Typed.exists_statement_of_method hmethod
  exact ⟨statement, Typed.onOneLine_statement hresult hcall hstatement, rfl⟩

/-- A setter is laid out as the method of its signature, which has no result. -/
theorem isLaidOut_setter (hread : Signature.read Catalogue.standard line = .ok signature)
    (hvoid : signature.hasResult = false) (hsetter : Typed.setter {} signature = .ok text) :
    Typed.IsLaidOut signature text := by
  obtain ⟨hname, harguments⟩ := onOneLine_of_read hread
  have htyped : signature.resultType.typedName = "void" := by
    rw [Signature.hasResult, Bool.not_eq_false'] at hvoid
    exact typedName_of_isVoid _ (Signature.resultType_mem_of_read hread) hvoid
  rw [Typed.setter] at hsetter
  split at hsetter
  case h_1 argument heq =>
    obtain rfl := Except.ok.inj hsetter
    have hargument : argument.OnOneLine := harguments argument (by simp [heq])
    have hkey : OnOneLine (Naming.setterKey signature.name).toList :=
      onOneLine_of_not_mem fun _ hc ↦
        Naming.not_mem_setterKey (toNat_of_isLineEnd hc) (hname.not_mem hc)
    have hvalue := Typed.onOneLine_unwrap hargument.name
    refine ⟨_, ?_, by rw [htyped, heq]⟩
    simp +decide [hkey, hvalue]
  case h_2 => cases hsetter

theorem isLaidOut_getter (hread : Signature.read Catalogue.standard line = .ok signature)
    (hgetter : Typed.getter {} signature = .ok text) : Typed.IsLaidOut signature text := by
  obtain ⟨hname, -⟩ := onOneLine_of_read hread
  have hresult := Signature.resultType_mem_of_read hread
  have htyped := (onOneLine_of_mem_standard hresult).typedName
  have hkey : OnOneLine (Naming.getterKey signature.name).toList :=
    onOneLine_of_not_mem fun _ hc ↦
      Naming.not_mem_getterKey (toNat_of_isLineEnd hc) (hname.not_mem hc)
  simp only [Typed.getter] at hgetter
  split at hgetter
  case isTrue => cases hgetter
  case isFalse harguments =>
    split at hgetter
    case h_1 => cases hgetter
    case h_2 conversion hconversion =>
      split at hgetter
      case h_1 => cases hgetter
      case h_2 converted hexpand =>
        obtain rfl := Except.ok.inj hgetter
        have hconverted := Typed.onOneLine_expand hresult hconversion (by simp +decide [hkey])
          htyped (by decide) hexpand
        have hnone : signature.arguments = [] := by simpa using harguments
        refine ⟨_, ?_, by rw [hnone]⟩
        simp +decide [hconverted]

theorem isLaidOut_property (hread : Signature.read Catalogue.standard line = .ok signature)
    (hproperty : Typed.property {} signature = .ok text) : Typed.IsLaidOut signature text := by
  rw [Typed.property] at hproperty
  split at hproperty
  case isTrue => exact isLaidOut_getter hread hproperty
  case isFalse hvoid =>
    rcases hsetter : Typed.setter {} signature with refusal | typed
    · rw [hsetter] at hproperty
      cases hproperty
    · rw [hsetter] at hproperty
      obtain rfl : typed = text := Except.ok.inj hproperty
      exact isLaidOut_setter hread (by simpa using hvoid) hsetter

theorem onOneLine_head_of_read
    (hread : Signature.read Catalogue.standard line = .ok signature) :
    OnOneLine (Typed.head (Typed.name {} signature.name) signature.arguments
      signature.resultType.typedName).toList := by
  obtain ⟨hname, harguments⟩ := onOneLine_of_read hread
  have hstripped : OnOneLine (Typed.name {} signature.name).toList :=
    onOneLine_of_not_mem fun _ hc ↦
      Naming.not_mem_stripLegacyPrefix (toNat_of_isLineEnd hc) _ (hname.not_mem hc)
  exact Typed.onOneLine_head hstripped harguments
    (onOneLine_of_mem_standard (Signature.resultType_mem_of_read hread)).typedName

theorem isDelimited_of_isLaidOut (hread : Signature.read Catalogue.standard line = .ok signature)
    (h : Typed.IsLaidOut signature text) : IsDelimited (·.isEmpty) 1 text := by
  obtain ⟨statement, hstatement, rfl⟩ := h
  exact Typed.isDelimited_layout (onOneLine_head_of_read hread).lineFeed_notMem
    hstatement.lineFeed_notMem

/-- The fragments of a line are those of its signature, in both modes. -/
theorem areOf_of_generate {mode : Mode}
    (hread : Signature.read Catalogue.standard line = .ok signature)
    (h : generate (.standard engine) className mode line = .ok (.ok fragments)) :
    fragments.AreOf engine className signature := by
  obtain ⟨signature', hread', hfragments⟩ := generate_eq_ok_iff.1 h
  obtain rfl := Except.ok.inj (hread.symm.trans hread')
  cases mode with
  | operation =>
    obtain ⟨nativeBody, typed, hbody, hmethod, rfl⟩ := fragments_operation_eq_ok_iff.1 hfragments
    refine ⟨?_, ?_, ?_, isLaidOut_method hread hmethod⟩
    · rintro _ ⟨⟩
      rfl
    · rintro _ ⟨⟩
      rfl
    · rintro _ ⟨⟩
      exact hbody
  | property =>
    obtain ⟨typed, hproperty, rfl⟩ := fragments_property_eq_ok_iff.1 hfragments
    exact ⟨by simp, by simp, by simp, isLaidOut_property hread hproperty⟩

/-- The fragments of a line are delimited, in both modes. -/
theorem areDelimited_of_generate {mode : Mode} (hclass : Signature.IsName className.toList)
    (h : generate (.standard engine) className mode line = .ok (.ok fragments)) :
    fragments.AreDelimited := by
  obtain ⟨signature, hread, -⟩ := generate_eq_ok_iff.1 h
  have hread : Signature.read Catalogue.standard line = .ok signature := hread
  have hclass : OnOneLine className.toList :=
    onOneLine_of_isWord fun c hc ↦ hclass.isWord_of_mem hc
  have hof := areOf_of_generate hread h
  obtain ⟨hname, -⟩ := onOneLine_of_read hread
  refine ⟨fun text htext ↦ ?_, fun text htext ↦ ?_, fun text htext ↦ ?_,
    isDelimited_of_isLaidOut hread hof.typed⟩
  · rw [hof.declaration text htext]
    exact Native.isDelimited_declaration hname
  · rw [hof.registration text htext]
    exact Native.isDelimited_registration hclass hname
  · exact isDelimited_body hclass hread (hof.nativeBody text htext)

end Generator

end BindingGlue
