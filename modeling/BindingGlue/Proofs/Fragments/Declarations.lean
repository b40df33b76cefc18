import BindingGlue.Proofs.Fragments.Calls
import BindingGlue.Proofs.Text.Blocks

/-!
# The declarations of a native body

The names that a text declares are read off its lines (`declaredIn`): the parameter at the head of a
member, and in the outermost block whatever a statement gives a value to with its type in front, and
the scope. Blocks are told by the braces at the ends of lines, statements by their semicolons and
values by equals signs.

A native body declares its names in the order of its parts and no others
(`Native.DeclaresInOrder`). This is what is read off it, unless one of the texts that the options
and the catalogue put into it has an equals sign, a semicolon or a line feed of its own: with the
spelling `int a = 0; int` a variable is one of two. The types and the values of the declarations
have no such characters but those of these texts (`Native.TakesMarksFrom`), and without any the
lines determine the names (`Native.DeclaresInOrder.namesFrom_eq`).
-/

namespace BindingGlue

open Text

/-! ### Names that are read off a text -/

/-- The name that a statement of the outermost block declares: the last word in front of the first
equals sign, but for a blank. -/
def declaredName? (statement : List Char) : Option String :=
  if '=' ∈ statement then
    some (String.ofList ((statement.takeWhile (· != '=')).dropLast.rtakeWhile isWord))
  else if statement = "  Napi::HandleScope scope(env)".toList then some "scope"
  else none

/-- The depth of blocks below a line. -/
def depthBelow (depth : Nat) (line : List Char) : Nat :=
  match line.getLast? with
  | some '\x7b' => depth + 1
  | some '\x7d' => depth - 1
  | _ => depth

/-- The names that a line declares: outside of all blocks its parameter, and in the outermost block
those of its statements. What opens a block declares nothing outside of that. -/
def lineNames (depth : Nat) (line : List Char) : List String :=
  match depth with
  | 0 => if "(const Napi::CallbackInfo& info) \x7b".toList <:+ line then ["info"] else []
  | 1 => if line.getLast? = some '\x7b' then [] else (line.splitOn ';').filterMap declaredName?
  | _ => []

/-- The names that lines declare, from a depth of blocks on. -/
def namesFrom : Nat → List (List Char) → List String
  | _, [] => []
  | depth, line :: lines => lineNames depth line ++ namesFrom (depthBelow depth line) lines

/-- The names that a text declares, outside of the inner blocks. -/
def declaredIn (text : String) : List String :=
  namesFrom 0 (linesOf text)

/-- The characters that values, statements and lines are told by. -/
def isStatementMark (c : Char) : Bool :=
  c == '=' || c == ';' || c == '\n'

/-- The texts that the options and the catalogue put into native bodies. -/
def Generator.bodyTexts (generator : Generator) : List String :=
  [generator.options.nativeInstance, generator.options.wrapperCache.nativeLookup] ++
    generator.catalogue.results.flatMap fun type ↦
      [type.nativeSpelling, type.wrapText, type.accessorText]

/-- No text that is put into native bodies has the mark of a statement. -/
def Generator.HasPlainTexts (generator : Generator) : Prop :=
  ∀ text ∈ generator.bodyTexts, text.toList.all (!isStatementMark ·)

namespace Native

variable {generator : Generator} {texts names lines : List String} {line name s t : String}
  {argument : Argument} {arguments : List Argument} {signature : Signature} {type : TypeEntry}

/-! ### Marks -/

/-- The text has no marks but those of the given texts. -/
def TakesMarksFrom (texts : List String) (s : String) : Prop :=
  ∀ c ∈ s.toList, isStatementMark c → ∃ text ∈ texts, c ∈ text.toList

@[simp] theorem takesMarksFrom_append :
    TakesMarksFrom texts (s ++ t) ↔ TakesMarksFrom texts s ∧ TakesMarksFrom texts t := by
  simp only [TakesMarksFrom, String.toList_append, List.forall_mem_append]

theorem takesMarksFrom_intercalate {separator : String} {pieces : List String}
    (hseparator : TakesMarksFrom texts separator)
    (hpieces : ∀ piece ∈ pieces, TakesMarksFrom texts piece) :
    TakesMarksFrom texts (separator.intercalate pieces) := by
  intro c hc hmark
  by_contra hnone
  exact not_mem_intercalate (fun hmem ↦ hnone (hseparator c hmem hmark))
    (fun piece hpiece hmem ↦ hnone (hpieces piece hpiece c hmem hmark)) hc

theorem takesMarksFrom_of_mem (h : s ∈ texts) : TakesMarksFrom texts s :=
  fun _ hc _ ↦ ⟨s, h, hc⟩

theorem takesMarksFrom_of_all (h : s.toList.all (!isStatementMark ·)) : TakesMarksFrom texts s := by
  intro c hc hmark
  have hnone := List.all_eq_true.1 h c hc
  simp [hmark] at hnone

theorem takesMarksFrom_of_isWord (h : ∀ c ∈ s.toList, isWord c) : TakesMarksFrom texts s := by
  refine takesMarksFrom_of_all (List.all_eq_true.2 fun c hc ↦ ?_)
  rw [Bool.not_eq_true', ← Bool.not_eq_true]
  intro hmark
  simp only [isStatementMark, Bool.or_eq_true, beq_iff_eq] at hmark
  have hword := h c hc
  rcases hmark with (rfl | rfl) | rfl
  all_goals simp [isWord] at hword

/-- Where the texts have no marks, what takes its marks from them has none either. -/
theorem TakesMarksFrom.notMem (h : TakesMarksFrom generator.bodyTexts s)
    (hplain : generator.HasPlainTexts) {c : Char} (hc : isStatementMark c) : c ∉ s.toList := by
  intro hmem
  obtain ⟨text, htext, hwithin⟩ := h c hmem hc
  have hnone := List.all_eq_true.1 (hplain text htext) c hwithin
  simp [hc] at hnone

theorem takesMarksFrom_of_mem_results (h : type ∈ generator.catalogue.results) :
    TakesMarksFrom generator.bodyTexts type.nativeSpelling ∧
      TakesMarksFrom generator.bodyTexts type.baseNative ∧
      TakesMarksFrom generator.bodyTexts type.wrapText ∧
      TakesMarksFrom generator.bodyTexts type.accessorText := by
  have hmem : ∀ text ∈ [type.nativeSpelling, type.wrapText, type.accessorText],
      text ∈ generator.bodyTexts :=
    fun text htext ↦ List.mem_append_right _ (List.mem_flatMap.2 ⟨type, h, htext⟩)
  have hnative := takesMarksFrom_of_mem (hmem type.nativeSpelling (by simp))
  exact ⟨hnative, fun c hc ↦ hnative c (mem_of_mem_baseNative hc),
    takesMarksFrom_of_mem (hmem type.wrapText (by simp)),
    takesMarksFrom_of_mem (hmem type.accessorText (by simp))⟩

/-! ### The lines of a body -/

/-- The line declares the name in the outermost block: a variable, or the scope. -/
inductive Declares (generator : Generator) : String → String → Prop
  | variable (type name value : String) (htype : TakesMarksFrom generator.bodyTexts type)
    (hname : ∀ c ∈ name.toList, isWord c) (hvalue : TakesMarksFrom generator.bodyTexts value) :
    Declares generator name ("  " ++ (type ++ " " ++ name ++ " = " ++ value ++ ";"))
  | scope : Declares generator "scope" "  Napi::HandleScope scope(env);"

/-- The line declares nothing in the outermost block: it is empty, returns or calls a method of the
native object. -/
inductive IsSilent (generator : Generator) : String → Prop
  | empty : IsSilent generator ""
  | returns (value : String) (hvalue : TakesMarksFrom generator.bodyTexts value) :
    IsSilent generator ("  " ++ ("return " ++ value ++ ";"))
  | call (method arguments : String) (hmethod : TakesMarksFrom generator.bodyTexts method)
    (harguments : TakesMarksFrom generator.bodyTexts arguments) :
    IsSilent generator
      ("  " ++ (generator.options.nativeInstance ++ "->" ++ method ++ "(" ++ arguments ++ ");"))

/-- The line opens a block in the outermost one. -/
structure IsOpening (line : String) : Prop where
  getLast?_eq : line.toList.getLast? = some '\x7b'
  lineFeed_notMem : '\n' ∉ line.toList

/-- The line stands in an inner block, and neither opens one nor closes it. -/
structure IsInner (generator : Generator) (line : String) : Prop where
  indented : "    ".toList <+: line.toList
  opens_nothing : line.toList.getLast? ≠ some '\x7b'
  closes_nothing : line.toList.getLast? ≠ some '\x7d'
  lineFeed : '\n' ∈ line.toList → ∃ text ∈ generator.bodyTexts, '\n' ∈ text.toList

/-- The lines of an outermost block declare the names in this order and no others. -/
inductive DeclaresInOrder (generator : Generator) : List String → List String → Prop
  | nil : DeclaresInOrder generator [] []
  | declares {name line : String} {names lines : List String} (hline : Declares generator name line)
    (hlines : DeclaresInOrder generator names lines) :
    DeclaresInOrder generator (name :: names) (line :: lines)
  | silent {line : String} {names lines : List String} (hline : IsSilent generator line)
    (hlines : DeclaresInOrder generator names lines) :
    DeclaresInOrder generator names (line :: lines)
  | block {opening : String} (inner : List String) {names lines : List String}
    (hopening : IsOpening opening) (hinner : ∀ line ∈ inner, IsInner generator line)
    (hlines : DeclaresInOrder generator names lines) :
    DeclaresInOrder generator names (opening :: (inner ++ "  \x7d" :: lines))

theorem DeclaresInOrder.append {otherNames otherLines : List String}
    (h : DeclaresInOrder generator names lines)
    (hothers : DeclaresInOrder generator otherNames otherLines) :
    DeclaresInOrder generator (names ++ otherNames) (lines ++ otherLines) := by
  induction h with
  | nil => exact hothers
  | declares hline _ ih => exact .declares hline ih
  | silent hline _ ih => exact .silent hline ih
  | block inner hopening hinner _ ih =>
    rw [List.cons_append, List.append_assoc, List.cons_append]
    exact .block inner hopening hinner ih

/-! ### The lines determine the names -/

theorem splitOn_statement {statement : List Char} (h : ';' ∉ statement) :
    (statement ++ [';']).splitOn ';' = [statement, []] := by
  rw [List.splitOn_append_cons_self_of_not_mem h]
  rfl

/-- A line of one statement declares what the statement does. -/
theorem lineNames_statement {statement : List Char} (h : ';' ∉ statement) :
    lineNames 1 (statement ++ [';']) = (declaredName? statement).toList := by
  have hlast : (statement ++ [';']).getLast? ≠ some '\x7b' := by simp
  have hnone : declaredName? [] = none := rfl
  rw [lineNames, if_neg hlast, splitOn_statement h, List.filterMap_cons, List.filterMap_cons, hnone]
  cases declaredName? statement <;> rfl

theorem depthBelow_statement (depth : Nat) (statement : List Char) :
    depthBelow depth (statement ++ [';']) = depth := by
  simp [depthBelow]

/-- What is given a value is the word in front of the equals sign. -/
theorem declaredName?_variable {type name : List Char} (htype : '=' ∉ type)
    (hname : ∀ c ∈ name, isWord c) (value : List Char) :
    declaredName? (type ++ ' ' :: name ++ ' ' :: '=' :: value) = some (String.ofList name) := by
  have hfront : ∀ c ∈ type ++ ' ' :: name ++ [' '], (c != '=') = true := by
    intro c hc
    rw [bne_iff_ne]
    rintro rfl
    have hword : '=' ∉ name := fun hmem ↦ by simpa [isWord] using hname '=' hmem
    simp [htype, hword] at hc
  have htext : type ++ ' ' :: name ++ ' ' :: '=' :: value =
      type ++ ' ' :: name ++ [' '] ++ '=' :: value := by
    simp
  have hlast : (type ++ ' ' :: name).rtakeWhile isWord = name := by
    have hreverse : (type ++ ' ' :: name).reverse = name.reverse ++ ' ' :: type.reverse := by
      simp
    rw [List.rtakeWhile, hreverse, takeWhile_append_of_head? (by simpa using hname)
      (by simp [isWord]), List.reverse_reverse]
  rw [declaredName?, if_pos (by simp), htext,
    takeWhile_append_of_head? hfront (by simp), List.dropLast_concat, hlast]

theorem Declares.lineNames_eq (hplain : generator.HasPlainTexts)
    (h : Declares generator name line) :
    lineNames 1 line.toList = [name] ∧ depthBelow 1 line.toList = 1 ∧ '\n' ∉ line.toList := by
  cases h with
  | scope =>
    refine ⟨?_, by decide, by decide⟩
    decide
  | «variable» type name value htype hname hvalue =>
    have htext : ("  " ++ (type ++ " " ++ name ++ " = " ++ value ++ ";")).toList =
        ("  " ++ type).toList ++ ' ' :: name.toList ++ ' ' :: '=' :: (' ' :: value.toList) ++
          [';'] := by
      simp
    have hname' : ∀ c, isWord c = false → c ∉ name.toList :=
      fun c hc ↦ not_mem_of_isWord hname hc
    have hsemicolon : ';' ∉ ("  " ++ type).toList ++ ' ' :: name.toList ++
        ' ' :: '=' :: (' ' :: value.toList) := by
      simp [htype.notMem hplain (c := ';') rfl, hvalue.notMem hplain (c := ';') rfl,
        hname' ';' (by simp [isWord])]
    rw [htext, lineNames_statement hsemicolon, depthBelow_statement, declaredName?_variable
      (by simp [htype.notMem hplain (c := '=') rfl]) hname, String.ofList_toList]
    refine ⟨rfl, rfl, ?_⟩
    simp [htype.notMem hplain (c := '\n') rfl, hvalue.notMem hplain (c := '\n') rfl,
      hname' '\n' (by simp [isWord])]

/-- A statement without an equals sign that is not the one of the scope declares nothing. -/
theorem lineNames_of_notMem {statement : List Char} (hsemicolon : ';' ∉ statement)
    (hequals : '=' ∉ statement) (hscope : statement ≠ "  Napi::HandleScope scope(env)".toList) :
    lineNames 1 (statement ++ [';']) = [] := by
  rw [lineNames_statement hsemicolon, declaredName?, if_neg hequals, if_neg hscope]
  rfl

theorem IsSilent.lineNames_eq (hplain : generator.HasPlainTexts) (h : IsSilent generator line) :
    lineNames 1 line.toList = [] ∧ depthBelow 1 line.toList = 1 ∧ '\n' ∉ line.toList := by
  cases h with
  | empty =>
    refine ⟨?_, by decide, by decide⟩
    decide
  | returns value hvalue =>
    have htext : ("  " ++ ("return " ++ value ++ ";")).toList =
        ("  return " ++ value).toList ++ [';'] := by
      simp
    have hmark : ∀ c, isStatementMark c → c ∉ "  return ".toList →
        c ∉ ("  return " ++ value).toList := by
      intro c hc hfixed
      rw [String.toList_append, List.mem_append, not_or]
      exact ⟨hfixed, hvalue.notMem hplain hc⟩
    have hscope : ("  return " ++ value).toList ≠ "  Napi::HandleScope scope(env)".toList := by
      simp
    rw [htext, depthBelow_statement, lineNames_of_notMem (hmark ';' rfl (by decide))
      (hmark '=' rfl (by decide)) hscope]
    exact ⟨rfl, rfl, by simpa using hmark '\n' rfl (by decide)⟩
  | call method arguments hmethod harguments =>
    have hreceiver : TakesMarksFrom generator.bodyTexts generator.options.nativeInstance :=
      takesMarksFrom_of_mem (by simp [Generator.bodyTexts])
    generalize generator.options.nativeInstance = receiver at hreceiver ⊢
    have htext : ("  " ++ (receiver ++ "->" ++ method ++ "(" ++ arguments ++ ");")).toList =
        ("  " ++ receiver ++ "->" ++ method ++ "(" ++ arguments ++ ")").toList ++ [';'] := by
      simp
    have hmark : ∀ c, isStatementMark c → c ∉ "  ->()".toList →
        c ∉ ("  " ++ receiver ++ "->" ++ method ++ "(" ++ arguments ++ ")").toList := by
      intro c hc hfixed
      simp only [String.reduceToList, List.mem_cons, List.not_mem_nil, or_false, not_or] at hfixed
      simp [hreceiver.notMem hplain hc, hmethod.notMem hplain hc, harguments.notMem hplain hc,
        hfixed]
    have hscope : ("  " ++ receiver ++ "->" ++ method ++ "(" ++ arguments ++ ")").toList ≠
        "  Napi::HandleScope scope(env)".toList := by
      intro heq
      have hdash : '-' ∈ "  Napi::HandleScope scope(env)".toList := by
        rw [← heq]
        simp
      exact absurd hdash (by decide)
    rw [htext, depthBelow_statement, lineNames_of_notMem (hmark ';' rfl (by decide))
      (hmark '=' rfl (by decide)) hscope]
    exact ⟨rfl, rfl, by simpa using hmark '\n' rfl (by decide)⟩

theorem IsInner.lineNames_eq (hplain : generator.HasPlainTexts) (h : IsInner generator line) :
    lineNames 2 line.toList = [] ∧ depthBelow 2 line.toList = 2 ∧ '\n' ∉ line.toList := by
  refine ⟨rfl, ?_, fun hmem ↦ ?_⟩
  · have hopens := h.opens_nothing
    have hcloses := h.closes_nothing
    rw [depthBelow]
    split
    · contradiction
    · contradiction
    · rfl
  · obtain ⟨text, htext, hwithin⟩ := h.lineFeed hmem
    have hnone := List.all_eq_true.1 (hplain text htext) '\n' hwithin
    simp [isStatementMark] at hnone

/-- **The lines of an outermost block determine the names that they declare**, where the texts that
are put into them have no marks. -/
theorem DeclaresInOrder.namesFrom_eq (hplain : generator.HasPlainTexts)
    (h : DeclaresInOrder generator names lines) :
    (∀ rest, namesFrom 1 (lines.map String.toList ++ rest) = names ++ namesFrom 1 rest) ∧
      ∀ line ∈ lines, '\n' ∉ line.toList := by
  induction h with
  | nil => exact ⟨fun _ ↦ rfl, by simp⟩
  | declares hline _ ih =>
    obtain ⟨hnames, hdepth, hfeed⟩ := hline.lineNames_eq hplain
    refine ⟨fun rest ↦ ?_, List.forall_mem_cons.2 ⟨hfeed, ih.2⟩⟩
    rw [List.map_cons, List.cons_append, namesFrom, hnames, hdepth, ih.1 rest]
    rfl
  | silent hline _ ih =>
    obtain ⟨hnames, hdepth, hfeed⟩ := hline.lineNames_eq hplain
    refine ⟨fun rest ↦ ?_, List.forall_mem_cons.2 ⟨hfeed, ih.2⟩⟩
    rw [List.map_cons, List.cons_append, namesFrom, hnames, hdepth, ih.1 rest]
    rfl
  | @block opening inner names lines hopening hinner _ ih =>
    have hopens : lineNames 1 opening.toList = [] := by
      rw [lineNames, if_pos hopening.getLast?_eq]
    have hdepth : depthBelow 1 opening.toList = 2 := by
      simp [depthBelow, hopening.getLast?_eq]
    have hskips : ∀ rest, namesFrom 2 (inner.map String.toList ++ rest) = namesFrom 2 rest := by
      intro rest
      induction inner with
      | nil => rfl
      | cons line inner ih =>
        rw [List.forall_mem_cons] at hinner
        obtain ⟨hnames, hdepth, -⟩ := hinner.1.lineNames_eq hplain
        rw [List.map_cons, List.cons_append, namesFrom, hnames, hdepth, ih hinner.2]
        rfl
    refine ⟨fun rest ↦ ?_, ?_⟩
    · have hcloses : depthBelow 2 "  \x7d".toList = 1 := by decide
      rw [List.map_cons, List.cons_append, namesFrom, hopens, hdepth, List.map_append,
        List.append_assoc, List.nil_append, hskips, List.map_cons, List.cons_append, namesFrom,
        hcloses, ih.1 rest]
      rfl
    · rw [List.forall_mem_cons, List.forall_mem_append, List.forall_mem_cons]
      exact ⟨hopening.lineFeed_notMem,
        fun line hline ↦ ((hinner line hline).lineNames_eq hplain).2.2, by decide, ih.2⟩

end Native

end BindingGlue
