import BindingGlue.Proofs.Signature.Accepted
import BindingGlue.Proofs.Signature.BareName
import BindingGlue.Proofs.Signature.DeclaredParts
import BindingGlue.Proofs.Types.Usable
import BindingGlue.Signature.Printer

/-!
# Signatures read from what is written of them

A signature that is written by `Signature.render` and read again is the same signature, but for the
line that it keeps (`Signature.read_render`). Names may be any words, so also `const`, `virtual` and
`void`: a line has only one reading, so that it is enough to say which parts the written line has.

Under the standard vocabulary this holds of every signature that is read from a line, whatever the
line was: the names of the vocabulary are types as they stand (`isReadable_of_mem_standard`).
-/

namespace BindingGlue

open Text BindingGlue.Types

/-- A type that its own name stands for: the name is a type and its own bare name, and of the
entries with this name the type is the last one. -/
structure TypeEntry.IsReadable (entries : List TypeEntry) (type : TypeEntry) : Prop where
  isType : Signature.IsType type.name.toList
  bareName_eq : bareName type.name = type.name
  lastNamed?_eq : lastNamed? entries type.name = some type

namespace Argument

variable {catalogue : Catalogue} {argument : Argument}

/-- The argument as it stands in a list. -/
def written (argument : Argument) : List Char :=
  argument.type.name.toList ++ ' ' :: argument.name.toList

/-- An argument that is written as a type and a name. -/
structure IsWritten (argument : Argument) : Prop where
  isType : Signature.IsType argument.type.name.toList
  name_ne : argument.name ≠ ""
  isWord_name : ∀ c ∈ argument.name.toList, isWord c

/-- An argument that stands in a list without being cut: its type is one that its name stands for,
with no comma and no equals sign, and its own name is a word. -/
structure IsPrintable (catalogue : Catalogue) (argument : Argument) : Prop where
  isReadable : argument.type.IsReadable catalogue.arguments
  comma_notMem : ',' ∉ argument.type.name.toList
  equals_notMem : '=' ∉ argument.type.name.toList
  name_ne : argument.name ≠ ""
  isWord_name : ∀ c ∈ argument.name.toList, isWord c

theorem IsPrintable.isWritten (h : argument.IsPrintable catalogue) : argument.IsWritten :=
  ⟨h.isReadable.isType, h.name_ne, h.isWord_name⟩

/-- A character that is neither in the type nor a word character nor the space is not written. -/
theorem IsWritten.notMem_written (h : argument.IsWritten) {c : Char}
    (htype : c ∉ argument.type.name.toList) (hword : isWord c = false) (hspace : c ≠ ' ') :
    c ∉ argument.written := by
  have hname : c ∉ argument.name.toList := not_mem_of_isWord h.isWord_name hword
  simp [written, htype, hname, hspace]

theorem IsPrintable.comma_notMem_written (h : argument.IsPrintable catalogue) :
    ',' ∉ argument.written :=
  h.isWritten.notMem_written h.comma_notMem (by simp [isWord]) (by decide)

/-- No parenthesis is written. -/
theorem IsWritten.isArgumentChar_of_mem (h : argument.IsWritten) {c : Char}
    (hc : c ∈ argument.written) : Signature.isArgumentChar c := by
  rcases List.mem_append.1 hc with hc | hc
  · exact h.isType.isArgumentChar_of_mem hc
  · rcases List.mem_cons.1 hc with rfl | hc
    · decide
    · have hword := h.isWord_name c hc
      exact Signature.isArgumentChar_of_isTypeChar (Signature.isTypeChar_of_isWord hword)

theorem IsWritten.head?_written (h : argument.IsWritten) :
    ∀ c ∈ argument.written.head?, isBlank c = false := by
  obtain ⟨c, cs, heq, hc⟩ := h.isType.exists_cons
  intro d hd
  obtain rfl : c = d := by simpa [written, heq] using hd
  exact isBlank_eq_false_of_isNameStart hc

theorem IsWritten.getLast?_written (h : argument.IsWritten) :
    ∀ c ∈ argument.written.getLast?, isBlank c = false := by
  have hne : argument.name.toList ≠ [] := by simpa using h.name_ne
  intro c hc
  rw [written, List.getLast?_append_of_ne_nil _ (by simp), ← List.singleton_append,
    List.getLast?_append_of_ne_nil _ hne] at hc
  exact isBlank_eq_false_of_isWord (h.isWord_name c (List.mem_of_getLast? hc))

theorem IsWritten.trim_written (h : argument.IsWritten) :
    trim argument.written = argument.written :=
  trim_eq_self h.head?_written h.getLast?_written

end Argument

namespace Signature

variable {catalogue : Catalogue} {argument : Argument} {arguments : List Argument}
  {signature : Signature} {left : List Char} {line text : String}

/-! ### Single arguments -/

/-- An argument is what its part of a list declares, with any blanks in front. -/
theorem declarationOf_append_written (h : argument.IsPrintable catalogue) (hleft : IsBlanks left) :
    declarationOf (left ++ argument.written) = argument.written := by
  have hequals : '=' ∉ argument.written :=
    h.isWritten.notMem_written h.equals_notMem (by simp [isWord]) (by decide)
  rw [declarationOf_blanks_append hleft, declarationOf_eq_trim hequals]
  exact h.isWritten.trim_written

/-- A written argument is more than a single word. -/
theorem written_ne_void (argument : Argument) : argument.written ≠ "void".toList := by
  intro h
  have hspace : ' ' ∈ argument.written := by simp [Argument.written]
  rw [h, String.toList_ofList] at hspace
  exact absurd hspace (by decide)

theorem readPart_append_written (h : argument.IsPrintable catalogue) (hleft : IsBlanks left) :
    readPart catalogue line (left ++ argument.written) = .ok (some argument) := by
  have hread : readArgument? argument.written = some (argument.type.name, argument.name) := by
    rw [Argument.written, ← List.singleton_append, readArgument?_append_blanks h.isReadable.isType
      isBlanks_space (by simp) h.isWord_name, String.ofList_toList, String.ofList_toList]
  have htype : catalogue.argumentType? argument.type.name = some argument.type := by
    rw [Catalogue.argumentType?, h.isReadable.bareName_eq, h.isReadable.lastNamed?_eq]
  have hname : argument.name.isEmpty = false := by simpa using h.name_ne
  simp only [readPart, declarationOf_append_written h hleft, if_neg (written_ne_void argument),
    hread, htype, hname]
  rfl

/-! ### Lists of arguments -/

theorem toList_argumentList (arguments : List Argument) :
    (argumentList arguments).toList = [',', ' '].intercalate (arguments.map (·.written)) := by
  rw [argumentList, String.toList_intercalate, List.map_map]
  refine congrArg₂ List.intercalate (String.toList_ofList) (List.map_congr_left fun argument _ ↦ ?_)
  simp [Argument.written]

/-- A comma and a space between texts is a comma between the first one and the others with a space
in front. -/
theorem intercalate_commaSpace (s : List Char) (others : List (List Char)) :
    [',', ' '].intercalate (s :: others) = [','].intercalate (s :: others.map (' ' :: ·)) := by
  induction others generalizing s with
  | nil => simp
  | cons other others ih =>
    have hspace : ∀ t : List Char, ' ' :: [','].intercalate (t :: others.map (' ' :: ·)) =
        [','].intercalate ((' ' :: t) :: others.map (' ' :: ·)) := by
      intro t
      cases others <;> simp [List.intercalate_cons_cons]
    rw [List.intercalate_cons_cons, ih other, List.map_cons, List.intercalate_cons_cons, ← hspace]
    simp

theorem exists_toList_argumentList (first : Argument) (others : List Argument) :
    ∃ rest, (argumentList (first :: others)).toList = first.written ++ rest := by
  rw [toList_argumentList]
  cases others with
  | nil => exact ⟨[], by simp⟩
  | cons other others =>
    refine ⟨[',', ' '] ++ [',', ' '].intercalate ((other :: others).map (·.written)), ?_⟩
    rw [List.map_cons, List.map_cons, List.intercalate_cons_cons, List.append_assoc]

/-- A written list ends like its last argument. -/
theorem getLast?_argumentList (h : ∀ argument ∈ arguments, argument.IsPrintable catalogue) :
    ∀ c ∈ (argumentList arguments).toList.getLast?, isBlank c = false := by
  rw [toList_argumentList]
  induction arguments with
  | nil => simp
  | cons first others ih =>
    have hothers := ih fun other hother ↦ h other (List.mem_cons_of_mem _ hother)
    cases others with
    | nil => simpa using (h first List.mem_cons_self).isWritten.getLast?_written
    | cons other others =>
      have hne : [',', ' '].intercalate ((other :: others).map (·.written)) ≠ [] := by
        rw [← toList_argumentList]
        obtain ⟨rest, hrest⟩ := exists_toList_argumentList other others
        simp [hrest, Argument.written]
      rw [List.map_cons, List.map_cons, List.intercalate_cons_cons, ← List.map_cons,
        List.getLast?_append_of_ne_nil _ hne]
      exact hothers

/-- The parts of a written list are the arguments, all but the first with a space in front. -/
theorem argumentParts_argumentList
    (h : ∀ argument ∈ arguments, argument.IsPrintable catalogue) :
    argumentParts (argumentList arguments) = match arguments with
      | [] => []
      | first :: others => first.written :: others.map (' ' :: ·.written) := by
  cases arguments with
  | nil => rfl
  | cons first others =>
    have hfirst := h first List.mem_cons_self
    obtain ⟨rest, hrest⟩ := exists_toList_argumentList first others
    have hspace : ' ' ∈ (argumentList (first :: others)).toList := by
      simp [hrest, Argument.written]
    have hhead : ∀ c ∈ (argumentList (first :: others)).toList.head?, isBlank c = false := by
      have hne : first.written ≠ [] := by simp [Argument.written]
      rw [hrest, List.head?_append_of_ne_nil _ hne]
      exact hfirst.isWritten.head?_written
    have htrim : trim (argumentList (first :: others)).toList =
        (argumentList (first :: others)).toList :=
      trim_eq_self hhead (getLast?_argumentList h)
    have hempty : (argumentList (first :: others)).toList.isEmpty = false := by
      simpa using List.ne_nil_of_mem hspace
    have hvoid : (argumentList (first :: others)).toList ≠ "void".toList := by
      intro heq
      rw [heq, String.toList_ofList] at hspace
      exact absurd hspace (by decide)
    have htext : (argumentList (first :: others)).toList = [','].intercalate
        (first.written :: others.map (' ' :: ·.written)) := by
      rw [toList_argumentList, List.map_cons, intercalate_commaSpace, List.map_map]
      rfl
    have hcomma : ∀ s ∈ first.written :: others.map (' ' :: ·.written), ',' ∉ s := by
      intro s hs
      rcases List.mem_cons.1 hs with rfl | hs
      · exact hfirst.comma_notMem_written
      · obtain ⟨other, hother, rfl⟩ := List.mem_map.1 hs
        have hother := (h other (List.mem_cons_of_mem _ hother)).comma_notMem_written
        simpa using hother
    simp only [argumentParts, htrim, hempty, hvoid, Bool.false_or, decide_false]
    rw [if_neg (by simp), htext, List.splitOn_intercalate ',' hcomma (by simp)]

/-- A written list of arguments reads as the arguments. -/
theorem partsReadAs_argumentList
    (h : ∀ argument ∈ arguments, argument.IsPrintable catalogue)
    (hnodup : (arguments.map (·.name)).Nodup) :
    PartsReadAs catalogue line [] (argumentParts (argumentList arguments)) arguments := by
  have hread : ∀ argument ∈ arguments, ∀ left, IsBlanks left →
      readPart catalogue line (left ++ argument.written) = .ok (some argument) :=
    fun argument hargument left hleft ↦ readPart_append_written (h argument hargument) hleft
  refine ⟨arguments.map some, ?_, by simp [List.reduceOption], hnodup, by simp⟩
  rw [argumentParts_argumentList h, List.forall₂_map_right_iff]
  cases arguments with
  | nil => exact .nil
  | cons first others =>
    refine .cons (hread first List.mem_cons_self [] (by simp [IsBlanks])) ?_
    rw [List.forall₂_map_left_iff, List.forall₂_same]
    exact fun other hother ↦ hread other (List.mem_cons_of_mem _ hother) [' '] isBlanks_space

theorem isArgumentChar_of_mem_argumentList
    (h : ∀ argument ∈ arguments, argument.IsPrintable catalogue) {c : Char}
    (hc : c ∈ (argumentList arguments).toList) : isArgumentChar c := by
  induction arguments with
  | nil => simp [argumentList] at hc
  | cons first others ih =>
    have hothers := ih fun other hother ↦ h other (List.mem_cons_of_mem _ hother)
    rw [toList_argumentList] at hc hothers
    cases others with
    | nil => exact (h first List.mem_cons_self).isWritten.isArgumentChar_of_mem (by simpa using hc)
    | cons other others =>
      rw [List.map_cons, List.map_cons, List.intercalate_cons_cons, ← List.map_cons,
        List.mem_append, List.mem_append] at hc
      rcases hc with (hc | hc) | hc
      · exact (h first List.mem_cons_self).isWritten.isArgumentChar_of_mem hc
      · have hseparator : ∀ c ∈ [',', ' '], isArgumentChar c := by simp [isArgumentChar]
        exact hseparator c hc
      · exact hothers hc

/-! ### Signatures -/

/-- A signature that its written line stands for. -/
structure IsPrintable (catalogue : Catalogue) (signature : Signature) : Prop where
  isName : IsName signature.name.toList
  isReadable_resultType : signature.resultType.IsReadable catalogue.results
  isPrintable_argument : ∀ argument ∈ signature.arguments, argument.IsPrintable catalogue
  nodup_argumentNames : signature.argumentNames.Nodup

/-- The parts that the written line falls into. -/
def renderedParts (signature : Signature) : LineParts where
  isVirtual := signature.isVirtual
  resultType := signature.resultType.name
  name := signature.name
  arguments := argumentList signature.arguments

theorem toList_render (signature : Signature) :
    signature.render.toList = '/' :: ("/ TODO: ".toList ++
      (if signature.isVirtual then "virtual ".toList else []) ++
      signature.resultType.name.toList ++ ' ' :: signature.name.toList ++ '(' ::
      (argumentList signature.arguments).toList) ++ [')'] := by
  show ("// TODO: " ++ (if signature.isVirtual then "virtual " else "") ++
    signature.resultType.name ++ " " ++ signature.name ++ "(" ++ argumentList signature.arguments ++
      ")").toList = _
  cases signature.isVirtual <;> simp

/-- A written line is trimmed. -/
theorem trim_render (signature : Signature) :
    trim signature.render.toList = signature.render.toList := by
  rw [toList_render]
  apply trim_eq_self
  · intro c hc
    obtain rfl : '/' = c := Option.some.inj hc
    decide
  · intro c hc
    rw [List.getLast?_concat] at hc
    obtain rfl : ')' = c := Option.some.inj hc
    decide

/-- A written line falls into what was written, whether the types are known or not. -/
theorem fits_render (hname : IsName signature.name.toList)
    (htype : IsType signature.resultType.name.toList)
    (harguments : ∀ c ∈ (argumentList signature.arguments).toList, isArgumentChar c) :
    signature.renderedParts.Fits signature.render.toList := by
  have hspace := isBlanks_space
  refine ⟨[' '], [' '], if signature.isVirtual then "virtual ".toList else [], [], [' '], [], [],
    false, ?_, hspace, hspace, by simp [IsBlanks], ?_, rfl, htype, .inl ⟨hspace, by simp⟩, hname,
    harguments⟩
  · rw [toList_render, renderedParts]
    cases signature.isVirtual <;> simp
  · rw [renderedParts]
    cases signature.isVirtual with
    | false => rfl
    | true => exact ⟨[' '], by simp, hspace, by simp⟩

theorem read_render_eq_outcome (catalogue : Catalogue) (hname : IsName signature.name.toList)
    (htype : IsType signature.resultType.name.toList)
    (harguments : ∀ c ∈ (argumentList signature.arguments).toList, isArgumentChar c) :
    read catalogue signature.render =
      signature.renderedParts.outcome catalogue signature.render := by
  have hfits : signature.renderedParts.Fits (trim signature.render.toList) := by
    rw [trim_render]
    exact fits_render hname htype harguments
  rw [read_of_fits hfits, trim_render, String.ofList_toList]

/-- What is written of a signature is read as the signature. -/
theorem IsPrintable.read_eq (h : signature.IsPrintable catalogue) :
    read catalogue signature.render = .ok { signature with line := signature.render } := by
  have htype : catalogue.resultType? signature.resultType.name = some signature.resultType := by
    rw [Catalogue.resultType?, h.isReadable_resultType.bareName_eq,
      h.isReadable_resultType.lastNamed?_eq]
  have harguments : readParts catalogue signature.render []
      (argumentParts (argumentList signature.arguments)) = .ok signature.arguments :=
    readParts_eq_ok_iff.2
      (partsReadAs_argumentList h.isPrintable_argument h.nodup_argumentNames)
  rw [read_render_eq_outcome catalogue h.isName h.isReadable_resultType.isType
    fun c hc ↦ isArgumentChar_of_mem_argumentList h.isPrintable_argument hc, LineParts.outcome]
  simp only [renderedParts, htype, harguments]
  rfl

/-! ### The standard vocabulary -/

/-- The names of the standard vocabulary are whole types and their own bare names, and no list of
arguments is cut at them. -/
theorem standard_names : ∀ type ∈ Catalogue.standard.results,
    takeType? type.name.toList = some (type.name.toList, []) ∧ bareName type.name = type.name ∧
      ',' ∉ type.name.toList ∧ '=' ∉ type.name.toList := by
  have hnames : ∀ type ∈ Catalogue.standard.results,
      takeType? type.name.toList = some (type.name.toList, []) ∧
        ',' ∉ type.name.toList ∧ '=' ∉ type.name.toList := by
    decide
  intro type hmem
  obtain ⟨htake, hcomma, hequals⟩ := hnames type hmem
  refine ⟨htake, ?_, hcomma, hequals⟩
  rcases List.mem_cons.1 hmem with rfl | hentry
  · rfl
  · exact bareName_eq_self_iff.2 (Catalogue.isBare_of_mem_standard type hentry)

theorem isReadable_of_mem_standard {entries : List TypeEntry} {type : TypeEntry} {name : String}
    (hmem : type ∈ Catalogue.standard.results) (h : lastNamed? entries name = some type) :
    type.IsReadable entries := by
  obtain ⟨htake, hname, -, -⟩ := standard_names type hmem
  exact ⟨(takeType?_sound htake).2, hname, lastNamed?_name h⟩

/-- What is read under the standard vocabulary can be written. -/
theorem isPrintable_of_read (h : read Catalogue.standard text = .ok signature) :
    signature.IsPrintable Catalogue.standard := by
  obtain ⟨parts, -, -, htype, hparts⟩ := exists_fits_of_read h
  refine ⟨isName_of_read h, isReadable_of_mem_standard (resultType_mem_of_read h) htype, ?_, ?_⟩
  · intro argument hargument
    obtain ⟨part, -, hpart⟩ := hparts.exists_part hargument
    obtain ⟨spelling, -, hfound, hname⟩ := exists_of_readPart_eq_some hpart
    obtain ⟨hmem, -, hword⟩ := argument_of_read h hargument
    have hmem : argument.type ∈ Catalogue.standard.results := List.mem_cons_of_mem _ hmem
    obtain ⟨-, -, hcomma, hequals⟩ := standard_names argument.type hmem
    exact ⟨isReadable_of_mem_standard hmem hfound, hcomma, hequals, hname, hword⟩
  · obtain ⟨_, -, -, hnodup, -⟩ := hparts
    exact hnodup

/-- **What is written is read back**: a signature whose types stand for themselves is the signature
of the line that is written of it, and under the standard vocabulary this holds of the signature of
every line. -/
theorem read_render :
    (∀ (catalogue : Catalogue) (signature : Signature), signature.IsPrintable catalogue →
      read catalogue signature.render = .ok { signature with line := signature.render }) ∧
    ∀ (text : String) (signature : Signature), read Catalogue.standard text = .ok signature →
      read Catalogue.standard signature.render =
        .ok { signature with line := signature.render } :=
  ⟨fun _ _ h ↦ h.read_eq, fun _ _ h ↦ (isPrintable_of_read h).read_eq⟩

/-- Names that are keywords elsewhere in a line. -/
def keywords : Signature where
  name := "void"
  resultType := Vocabulary.signed "const"
  arguments := [{ type := Vocabulary.signed "virtual", name := "const" },
    { type := Vocabulary.signed "const", name := "void" }]
  isVirtual := true

/-- Types that are named like qualifiers. -/
def keywordTypes : Catalogue where
  entries := [Vocabulary.signed "const", Vocabulary.signed "virtual"]

theorem isPrintable_keywords : keywords.IsPrintable keywordTypes := by
  have htype : ∀ type ∈ keywordTypes.entries,
      takeType? type.name.toList = some (type.name.toList, []) ∧ bareName type.name = type.name ∧
        lastNamed? keywordTypes.results type.name = some type ∧
        lastNamed? keywordTypes.arguments type.name = some type := by
    decide
  have hargument : ∀ argument ∈ keywords.arguments,
      argument.type ∈ keywordTypes.entries ∧ ',' ∉ argument.type.name.toList ∧
        '=' ∉ argument.type.name.toList ∧ argument.name ≠ "" ∧
        argument.name.toList.all isWord := by
    decide
  have hname : takeName? keywords.name.toList = some (keywords.name.toList, []) := by
    decide
  obtain ⟨htake, hbare, hresult, -⟩ := htype keywords.resultType (by decide)
  refine ⟨(takeName?_sound hname).2, ⟨(takeType?_sound htake).2, hbare, hresult⟩, ?_, by decide⟩
  intro argument hmem
  obtain ⟨hentry, hcomma, hequals, hne, hword⟩ := hargument argument hmem
  obtain ⟨htake, hbare, -, hfound⟩ := htype argument.type hentry
  exact ⟨⟨(takeType?_sound htake).2, hbare, hfound⟩, hcomma, hequals, hne,
    List.all_eq_true.1 hword⟩

/-- Keywords are read back as names, and a line in another layout as the written one. -/
theorem read_render_keywords :
    (keywords.IsPrintable keywordTypes ∧
      read keywordTypes "// TODO: virtual const void(virtual const, const void)" = .ok
        { keywords with line := "// TODO: virtual const void(virtual const, const void)" }) ∧
    ∃ signature, read Catalogue.standard "//TODO:const QRect&f(int a = 1, void);" = .ok signature ∧
      read Catalogue.standard "// TODO: QRect f(int a)" =
        .ok { signature with line := "// TODO: QRect f(int a)" } := by
  have hkeywords := read_render.1 _ _ isPrintable_keywords
  have hrender : keywords.render = "// TODO: virtual const void(virtual const, const void)" := by
    decide
  rw [hrender] at hkeywords
  obtain ⟨signature, hread, hwritten⟩ : ∃ signature,
      read Catalogue.standard "//TODO:const QRect&f(int a = 1, void);" = .ok signature ∧
        signature.render = "// TODO: QRect f(int a)" := by
    refine ⟨{
      name := "f"
      resultType := Vocabulary.valueObject "QRect"
      arguments := [{ type := Vocabulary.signed "int", name := "a" }]
      line := "//TODO:const QRect&f(int a = 1, void);" }, ?_, ?_⟩
    · decide
    · decide
  have hagain := read_render.2 _ _ hread
  rw [hwritten] at hagain
  exact ⟨⟨isPrintable_keywords, hkeywords⟩, signature, hread, hagain⟩

end Signature

end BindingGlue
