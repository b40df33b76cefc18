import BindingGlue.Proofs.Signature.BothSides

/-!
# The names of arguments

The name of an argument is whatever run of word characters its declaration ends in
(`ArgumentFits.name_eq_lastWord`): what stands between the type and the name ends in a blank or a
mark, however the rest is read. A name of a method has to begin like one. This is not asked of the
name of an argument, nor is it compared with the qualifier, so every word is the name of an argument
of some line that is read (`exists_read_argumentNames_eq`), and can be declared only if it happens
to have the form of a name and is not `const`.
-/

namespace BindingGlue.Signature

open Text BindingGlue.Types

variable {catalogue : Catalogue} {line : String} {type name s part separator : List Char}

/-! ### The last word -/

/-- The run of word characters that a text ends in. -/
def lastWord (s : List Char) : List Char :=
  s.rtakeWhile isWord

/-- A run of word characters is the last word behind anything that ends in another character. -/
theorem lastWord_append (h : ∀ c ∈ s.getLast?, isWord c = false) (hname : ∀ c ∈ name, isWord c) :
    lastWord (s ++ name) = name := by
  have hreverse : ∀ c ∈ name.reverse, isWord c := fun c hc ↦ hname c (List.mem_reverse.1 hc)
  have hhead : ∀ c ∈ s.reverse.head?, isWord c = false := by simpa using h
  rw [lastWord, List.rtakeWhile, List.reverse_append, takeWhile_append_of_head? hreverse hhead,
    List.reverse_reverse]

theorem IsArgumentSeparator.ne_nil (h : IsArgumentSeparator separator) : separator ≠ [] := by
  rcases h with ⟨-, hne⟩ | ⟨left, constant, marks, right, rfl, -, -, -, hne, -⟩
  · exact hne
  · simp [hne]

theorem isWord_eq_false_of_isMark {c : Char} (h : isMark c) : isWord c = false := by
  by_contra hword
  rw [isMark_eq_false_of_isWord (by simpa using hword)] at h
  cases h

/-- What separates a name from its type ends in a blank or a mark. -/
theorem IsArgumentSeparator.isWord_getLast? (h : IsArgumentSeparator separator) :
    ∀ c ∈ separator.getLast?, isWord c = false := by
  intro c hc
  rcases h with ⟨hblanks, -⟩ | ⟨left, constant, marks, right, rfl, -, -, hmarks, hne, hright⟩
  · exact isWord_eq_false_of_isBlank (hblanks c (List.mem_of_getLast? hc))
  · rw [List.append_assoc, List.getLast?_append_of_ne_nil _ (by simp [hne])] at hc
    rcases List.mem_append.1 (List.mem_of_getLast? hc) with hc | hc
    · exact isWord_eq_false_of_isMark (hmarks c hc)
    · exact isWord_eq_false_of_isBlank (hright c hc)

/-- However an argument is read, its name is the last word. -/
theorem ArgumentFits.name_eq_lastWord (h : ArgumentFits type name s) : name = lastWord s := by
  obtain ⟨constant, isConst, separator, rfl, -, -, hseparator, hname⟩ := h
  rw [lastWord_append (fun c hc ↦ ?_) hname]
  rw [List.getLast?_append_of_ne_nil _ (IsArgumentSeparator.ne_nil hseparator)] at hc
  exact IsArgumentSeparator.isWord_getLast? hseparator c hc

/-! ### The names of a list -/

/-- The name that a part of a list declares: its last word, if it has one and is no lone `void`. -/
def declaredName? (part : List Char) : Option String :=
  if declarationOf part = "void".toList ∨ lastWord (declarationOf part) = [] then none
  else some (String.ofList (lastWord (declarationOf part)))

/-- A part that is read is read with the name that it declares. -/
theorem name_of_readPart {outcome : Option Argument}
    (h : readPart catalogue line part = .ok outcome) :
    outcome.map (·.name) = declaredName? part := by
  cases outcome with
  | none =>
    rcases readPart_eq_none_iff.1 h with hvoid | ⟨type, hlongest, -⟩
    · rw [declaredName?, if_pos (.inl hvoid), Option.map_none]
    · have hempty : lastWord (declarationOf part) = [] := hlongest.1.name_eq_lastWord.symm
      rw [declaredName?, if_pos (.inr hempty), Option.map_none]
  | some argument =>
    obtain ⟨spelling, hread, -, hne⟩ := exists_of_readPart_eq_some h
    have hname := (readArgument?_sound hread).name_eq_lastWord
    have hvoid : declarationOf part ≠ "void".toList := by
      intro hvoid
      rw [readPart_of_void catalogue line hvoid] at h
      cases h
    have hnonempty : lastWord (declarationOf part) ≠ [] := by
      rw [← hname]
      simpa using hne
    rw [declaredName?, if_neg (not_or.2 ⟨hvoid, hnonempty⟩), ← hname, String.ofList_toList,
      Option.map_some]

/-- So the names of a list are the ones that its parts declare, in order. -/
theorem PartsReadAs.map_name {seen : List String} {parts : List (List Char)}
    {arguments : List Argument} (h : PartsReadAs catalogue line seen parts arguments) :
    arguments.map (·.name) = parts.filterMap declaredName? := by
  obtain ⟨outcomes, hall, rfl, -⟩ := h
  induction hall with
  | nil => rfl
  | @cons part outcome parts outcomes hpart _ ih =>
    have hname := name_of_readPart hpart
    cases outcome with
    | none =>
      rw [List.reduceOption_cons_of_none, List.filterMap_cons_none hname.symm, ih]
    | some argument =>
      rw [List.reduceOption_cons_of_some, List.map_cons, List.filterMap_cons_some hname.symm, ih]

/-- No name of an argument is empty, and all have word characters only. -/
theorem isWord_of_mem_argumentNames {text name : String} {signature : Signature}
    (h : read catalogue text = .ok signature) (hname : name ∈ signature.argumentNames) :
    name ≠ "" ∧ ∀ c ∈ name.toList, isWord c := by
  obtain ⟨argument, hargument, rfl⟩ := List.mem_map.1 hname
  obtain ⟨parts, -, -, -, hparts⟩ := exists_fits_of_read h
  obtain ⟨part, -, hpart⟩ := hparts.exists_part hargument
  obtain ⟨spelling, hfits, -, hne⟩ := exists_of_readPart_eq_some hpart
  exact ⟨hne, isWord_of_readArgument? hfits⟩

/-- Any words that differ from each other are the names of arguments of one type. -/
theorem exists_read_argumentNames_eq {type : TypeEntry}
    (htype : type.IsReadable catalogue.arguments) (hcomma : ',' ∉ type.name.toList)
    (hequals : '=' ∉ type.name.toList) {names : List String} (hnodup : names.Nodup)
    (hnames : ∀ name ∈ names, name ≠ "" ∧ ∀ c ∈ name.toList, isWord c) :
    ∃ text signature, read catalogue text = .ok signature ∧ signature.argumentNames = names := by
  obtain ⟨result, -, hresult, -⟩ := exists_resultType?_void catalogue
  let arguments : List Argument := names.map fun name ↦ { type, name }
  have hargumentNames : arguments.map (·.name) = names := by
    rw [List.map_map]
    exact List.map_id names
  have hmethod : takeName? "f".toList = some ("f".toList, []) := by decide
  have hprintable : IsPrintable catalogue { name := "f", resultType := result, arguments } := by
    refine ⟨(takeName?_sound hmethod).2, hresult, fun argument hargument ↦ ?_, ?_⟩
    · obtain ⟨name, hname, rfl⟩ := List.mem_map.1 hargument
      exact ⟨htype, hcomma, hequals, (hnames name hname).1, (hnames name hname).2⟩
    · rwa [argumentNames, hargumentNames]
  exact ⟨_, _, hprintable.read_eq, hargumentNames⟩

/-! ### Names that can be declared -/

/-- A name that a declaration can introduce: it has the form of a name and is not the qualifier. -/
def IsDeclarable (name : String) : Prop :=
  IsName name.toList ∧ name ≠ "const"

theorem isName_iff_of_isWord (hname : ∀ c ∈ name, isWord c) :
    IsName name ↔ ∃ c ∈ name.head?, isNameStart c := by
  constructor
  · rintro ⟨c, cs, rfl, hc, -⟩
    exact ⟨c, rfl, hc⟩
  · rintro ⟨c, hhead, hc⟩
    obtain ⟨cs, rfl⟩ := List.head?_eq_some_iff.1 hhead
    exact ⟨c, cs, rfl, hc, (List.forall_mem_cons.1 hname).2⟩

/-- **Which names arguments have.** The names of a signature that is read are the last words of what
the parts of its list declare, in order. They are made of word characters; the name of the method
also begins like a name, and each of them can be declared exactly if it does so too and is not
`const`. And for every type that an argument can be written with, any words that differ from each
other are the names of the arguments of some line that is read. -/
theorem argumentNames_iff (catalogue : Catalogue) :
    (∀ text signature, read catalogue text = .ok signature →
      (∃ parts : LineParts, parts.Fits (trim text.toList) ∧
        signature.argumentNames = (argumentParts parts.arguments).filterMap declaredName?) ∧
      IsName signature.name.toList ∧
      ∀ name ∈ signature.argumentNames, (∀ c ∈ name.toList, isWord c) ∧
        (IsDeclarable name ↔ (∃ c ∈ name.toList.head?, isNameStart c) ∧ name ≠ "const")) ∧
    ∀ type : TypeEntry, type.IsReadable catalogue.arguments → ',' ∉ type.name.toList →
      '=' ∉ type.name.toList → ∀ names : List String,
      ((∃ text signature, read catalogue text = .ok signature ∧ signature.argumentNames = names) ↔
        names.Nodup ∧ ∀ name ∈ names, name ≠ "" ∧ ∀ c ∈ name.toList, isWord c) := by
  constructor
  · intro text signature hread
    refine ⟨?_, isName_of_read hread, fun name hname ↦ ?_⟩
    · obtain ⟨parts, hfits, -, -, hparts⟩ := exists_fits_of_read hread
      exact ⟨parts, hfits, hparts.map_name⟩
    · obtain ⟨-, hword⟩ := isWord_of_mem_argumentNames hread hname
      exact ⟨hword, and_congr_left' (isName_iff_of_isWord hword)⟩
  · intro type htype hcomma hequals names
    constructor
    · rintro ⟨text, signature, hread, rfl⟩
      exact ⟨nodup_argumentNames_of_read hread, fun name ↦ isWord_of_mem_argumentNames hread⟩
    · rintro ⟨hnodup, hnames⟩
      exact exists_read_argumentNames_eq htype hcomma hequals hnodup hnames

/-- A word that begins with a digit is the name of an argument, and so is the qualifier. -/
theorem argumentNames_iff_digit :
    (∃ parts : LineParts, parts.Fits (trim "// TODO: void f(int 1x, const QRect &const)".toList) ∧
      ["1x", "const"] = (argumentParts parts.arguments).filterMap declaredName?) ∧
    ∃ text signature, read Catalogue.standard text = .ok signature ∧
      signature.argumentNames = ["1x", "const"] := by
  have hread : read Catalogue.standard "// TODO: void f(int 1x, const QRect &const)" = .ok {
      name := "f"
      resultType := Vocabulary.void
      arguments := [{ type := Vocabulary.signed "int", name := "1x" },
        { type := Vocabulary.valueObject "QRect", name := "const" }]
      line := "// TODO: void f(int 1x, const QRect &const)" } := by
    decide
  have hmem : Vocabulary.signed "int" ∈ Catalogue.standard.results := by decide
  have hfound : lastNamed? Catalogue.standard.arguments "int" = some (Vocabulary.signed "int") := by
    decide
  have hwords : ∀ name ∈ ["1x", "const"], name ≠ "" ∧ name.toList.all isWord := by decide
  obtain ⟨hnames, hall⟩ := argumentNames_iff Catalogue.standard
  refine ⟨(hnames _ _ hread).1, ?_⟩
  exact (hall _ (isReadable_of_mem_standard hmem hfound) (by decide) (by decide) _).2
    ⟨by decide, fun name hname ↦
      ⟨(hwords name hname).1, List.all_eq_true.1 (hwords name hname).2⟩⟩

/-- So not all names of arguments that are read can be declared. -/
theorem argumentNames_undeclarable_digit :
    ¬ ∀ catalogue text signature, read catalogue text = .ok signature →
      ∀ name ∈ signature.argumentNames, IsDeclarable name := by
  intro h
  have hread : read Catalogue.standard "// TODO: void f(int 1x)" = .ok {
      name := "f"
      resultType := Vocabulary.void
      arguments := [{ type := Vocabulary.signed "int", name := "1x" }]
      line := "// TODO: void f(int 1x)" } := by
    decide
  obtain ⟨⟨c, cs, hcut, hstart, -⟩, -⟩ := h _ _ _ hread "1x" (by simp [argumentNames])
  obtain ⟨rfl, -⟩ := List.cons.inj hcut
  exact absurd hstart (by decide)

end BindingGlue.Signature
