import BindingGlue.Proofs.Interpreter.Pieces

/-!
# The parts of plain templates

The pieces of a plain template make the parts that `templateNodes` lists (`nodes?_templatePieces`):
they are turned into parts one after the other, and the parts of a passage or a loop are closed by
the tag that ends it. Each lemma says what becomes of some pieces in front of any others, inside any
open constructs and behind any parts, so the lemma of a loop is put together from those of its body.
-/

namespace BindingGlue.Interpreter

open Template (Line Passage Block Plain isPlainText isPlainName reservedNames)
open Text (isIdentifierChar isIdentifierStart)

variable {opens : List Open} {parts before : List Node} {rest : List Piece}
  {inside text seen : List Char} {expected : Bool} {tokens : List String} {path : Path}
  {item name : String} {c : Char}

/-! ### Tokens -/

theorem toNat_of_isLower (h : c.isLower) : 97 ≤ c.toNat ∧ c.toNat ≤ 122 := by
  have hletter : (decide ('a'.val ≤ c.val) && decide (c.val ≤ 'z'.val)) = true := h
  rw [Bool.and_eq_true, decide_eq_true_eq, decide_eq_true_eq, UInt32.le_iff_toNat_le,
    UInt32.le_iff_toNat_le] at hletter
  exact hletter

theorem isIdentifierStart_of_isLower (h : c.isLower) : isIdentifierStart c := by
  have hletters : ∀ n : Fin 26, isIdentifierStart (Char.ofNat (97 + n)) = true := by
    decide
  have hbounds := toNat_of_isLower h
  have hletter := hletters ⟨c.toNat - 97, by omega⟩
  rwa [show 97 + (c.toNat - 97) = c.toNat by omega, Char.ofNat_toNat] at hletter

theorem isIdentifierChar_of_isLower (h : c.isLower) : isIdentifierChar c :=
  Text.isIdentifierChar_of_isIdentifierStart (isIdentifierStart_of_isLower h)

theorem isName_of_isPlainName {reserved : List String} (h : isPlainName reserved name) :
    isName name := by
  have hlower := isLower_of_isPlainName h
  rw [isName]
  cases hchars : name.toList with
  | nil =>
    simp only [isPlainName, Bool.and_eq_true, Bool.not_eq_true'] at h
    simp_all
  | cons c cs => exact isIdentifierStart_of_isLower (hlower c (by simp [hchars]))

theorem tokens?_nil :
    tokens? seen [] = some (if seen.isEmpty then [] else [String.ofList seen.reverse]) := by
  cases seen <;> rfl

theorem tokens?_cons (cs : List Char) :
    tokens? seen (c :: cs) =
      if isIdentifierChar c then tokens? (c :: seen) cs
      else if Text.isBlank c || c = '.' then (tokens? [] cs).map fun rest ↦
        let rest := if c = '.' then "." :: rest else rest
        if seen.isEmpty then rest else String.ofList seen.reverse :: rest
      else none := by
  rw [Option.map_eq_bind]
  cases seen <;> rfl

/-- The characters of a word are taken up. -/
theorem tokens?_append {w cs : List Char} (hw : ∀ c ∈ w, c.isLower) :
    tokens? seen (w ++ cs) = tokens? (w.reverse ++ seen) cs := by
  induction w generalizing seen with
  | nil => rfl
  | cons c w ih =>
    rw [List.forall_mem_cons] at hw
    rw [List.cons_append, tokens?_cons, if_pos (isIdentifierChar_of_isLower hw.1), ih hw.2]
    simp

/-- What stands between words is in none of them. -/
theorem isIdentifierChar_separators :
    isIdentifierChar ' ' = false ∧ isIdentifierChar '.' = false := by
  decide +kernel

theorem tokens?_blank (cs : List Char) :
    tokens? seen (' ' :: cs) = (tokens? [] cs).map fun rest ↦
      if seen.isEmpty then rest else String.ofList seen.reverse :: rest := by
  have hblank : Text.isBlank ' ' = true := by decide
  simp [tokens?_cons, isIdentifierChar_separators.1, hblank]

theorem tokens?_dot (cs : List Char) :
    tokens? seen ('.' :: cs) = (tokens? [] cs).map fun rest ↦
      if seen.isEmpty then "." :: rest else String.ofList seen.reverse :: "." :: rest := by
  simp [tokens?_cons, isIdentifierChar_separators.2]

/-- Words between blanks, behind what was taken up so far. -/
theorem tokens?_words {words : List String}
    (h : ∀ word ∈ words, word ≠ "" ∧ ∀ c ∈ word.toList, c.isLower) :
    tokens? seen (words.flatMap (fun word ↦ ' ' :: word.toList) ++ [' ']) =
      some ((if seen.isEmpty then [] else [String.ofList seen.reverse]) ++ words) := by
  induction words generalizing seen with
  | nil =>
    rw [List.flatMap_nil, List.nil_append, tokens?_blank]
    split <;> simp_all [tokens?_nil]
  | cons word words ih =>
    rw [List.forall_mem_cons] at h
    obtain ⟨⟨hne, hlower⟩, h⟩ := h
    have hseen : word.toList ≠ [] := by simpa using hne
    rw [List.flatMap_cons, List.cons_append, List.cons_append, tokens?_blank, List.append_assoc,
      tokens?_append hlower, ih h]
    split <;> simp [hseen]

theorem ne_empty_of_isPlainName {reserved : List String} (h : isPlainName reserved name) :
    name ≠ "" := by
  rintro rfl
  cases h

/-- A plain name is a word between blanks. -/
theorem isWord_of_isPlainName {reserved : List String} (h : isPlainName reserved name) :
    name ≠ "" ∧ ∀ c ∈ name.toList, c.isLower :=
  ⟨ne_empty_of_isPlainName h, isLower_of_isPlainName h⟩

theorem tokens?_eachInside {source : String} (hitem : isPlainName reservedNames item)
    (hsource : isPlainName reservedNames source) :
    tokens? [] (eachInside item source).toList = some ["for", item, "in", source] := by
  have hwords : (eachInside item source).toList =
      ["for", item, "in", source].flatMap (fun word ↦ ' ' :: word.toList) ++ [' '] := by
    simp [eachInside]
  have hfor : "for" ≠ "" ∧ ∀ c ∈ "for".toList, c.isLower :=
    ⟨by decide, List.all_eq_true.1 (by decide)⟩
  have hin : "in" ≠ "" ∧ ∀ c ∈ "in".toList, c.isLower :=
    ⟨by decide, List.all_eq_true.1 (by decide)⟩
  rw [hwords, tokens?_words]
  · simp
  · simp only [List.forall_mem_cons, List.not_mem_nil, false_imp_iff, implies_true, and_true]
    exact ⟨hfor, isWord_of_isPlainName hitem, hin, isWord_of_isPlainName hsource⟩

theorem tokens?_fixed :
    tokens? [] " if not loop.last ".toList = some ["if", "not", "loop", ".", "last"] ∧
      tokens? [] " endif ".toList = some ["endif"] ∧
      tokens? [] " endfor ".toList = some ["endfor"] := by
  decide +kernel

/-! ### Paths -/

/-- A plain path as the interpreter has it. -/
def readPath (path : Template.Path) : Path where
  name := path.name
  fields := path.field?.toList

theorem tokens?_inside {path : Template.Path} (h : path.isPlain) :
    tokens? [] (Interpreter.inside path) =
      some (path.name :: path.field?.toList.flatMap fun field ↦ [".", field]) := by
  simp only [Template.Path.isPlain, Bool.and_eq_true] at h
  have hname : path.name.toList ≠ [] := by simpa using ne_empty_of_isPlainName h.1
  cases hfield : path.field? with
  | none =>
    have hinside : Interpreter.inside path = ' ' :: (path.name.toList ++ [' ']) := by
      simp [Interpreter.inside, Template.Path.text, hfield]
    rw [hinside, tokens?_blank, tokens?_append (isLower_of_isPlainName h.1), tokens?_blank]
    simp [tokens?_nil, hname]
  | some field =>
    have hplain : isPlainName Template.reservedFields field := by simpa [hfield] using h.2
    have hne : field.toList ≠ [] := by simpa using ne_empty_of_isPlainName hplain
    have hinside : Interpreter.inside path =
        ' ' :: (path.name.toList ++ '.' :: (field.toList ++ [' '])) := by
      simp [Interpreter.inside, Template.Path.text, hfield]
    rw [hinside, tokens?_blank, tokens?_append (isLower_of_isPlainName h.1), tokens?_dot,
      tokens?_append (isLower_of_isPlainName hplain), tokens?_blank]
    simp [tokens?_nil, hname, hne]

theorem ne_of_isPlainName {reserved : List String} {other : String}
    (h : isPlainName reserved name) (hother : other ∈ reserved) : name ≠ other := by
  rintro rfl
  simp [isPlainName, hother] at h

theorem fields?_cons {field : String} (h : isName field) :
    fields? ("." :: field :: tokens) = (fields? tokens).map (field :: ·) := by
  have hstart : (guard (isName field) : Option Unit) = some () := if_pos h
  rw [Option.map_eq_bind]
  show ((guard (isName field) : Option Unit).bind _) = _
  rw [hstart]
  rfl

theorem path?_cons (h : isName name) (hnot : name ≠ "not") :
    path? (name :: tokens) = (fields? tokens).map fun fields ↦ { name, fields } := by
  have hstart : (guard (isName name && name != "not") : Option Unit) = some () :=
    if_pos (by simp [h, hnot])
  rw [Option.map_eq_bind]
  show ((guard (isName name && name != "not") : Option Unit).bind _) = _
  rw [hstart]
  rfl

theorem path?_tokens {path : Template.Path} (h : path.isPlain) :
    path? (path.name :: path.field?.toList.flatMap fun field ↦ [".", field]) =
      some (readPath path) := by
  simp only [Template.Path.isPlain, Bool.and_eq_true] at h
  rw [path?_cons (isName_of_isPlainName h.1) (ne_of_isPlainName h.1 (by decide)), readPath]
  cases hfield : path.field? with
  | none => rfl
  | some field =>
    have hplain : isPlainName Template.reservedFields field := by simpa [hfield] using h.2
    have hfields : fields? [".", field] = some [field] := by
      rw [fields?_cons (isName_of_isPlainName hplain)]
      rfl
    show (fields? [".", field]).map _ = _
    rw [hfields]
    rfl

/-- No plain name that is not reserved always stands for the same value. -/
theorem lookup_constants_of_isPlainName (h : isPlainName reservedNames name) :
    constants.lookup name = none := by
  have hupper : ∀ other : String, other.toList.all Char.isLower = false → name ≠ other := by
    rintro other hother rfl
    rw [List.all_eq_true.2 (isLower_of_isPlainName h)] at hother
    cases hother
  rw [List.lookup_eq_none_iff]
  simp only [constants, List.forall_mem_cons, List.not_mem_nil, false_imp_iff, implies_true,
    and_true, bne_iff_ne]
  exact ⟨ne_of_isPlainName h (by decide), hupper _ (by decide), ne_of_isPlainName h (by decide),
    hupper _ (by decide), ne_of_isPlainName h (by decide), hupper _ (by decide)⟩

/-- A name that is not reserved can be given to the items of a loop. -/
theorem isBindable_of_isPlainName (h : isPlainName reservedNames name) : isBindable name := by
  have hloop : name ≠ "loop" := ne_of_isPlainName h (by decide)
  simp [isBindable, isName_of_isPlainName h, isConstant, lookup_constants_of_isPlainName h,
    loopName, hloop]

/-! ### Tags -/

theorem tag?_openEach (h : isBindable item) :
    tag? ("for" :: item :: "in" :: tokens) = (path? tokens).map (.openEach item) := by
  have hstart : (guard (isBindable item) : Option Unit) = some () := if_pos h
  rw [Option.map_eq_bind]
  show ((guard (isBindable item) : Option Unit).bind _) = _
  rw [hstart]
  rfl

theorem tag?_openGuarded :
    tag? ("if" :: "not" :: tokens) = (path? tokens).map (.openGuarded false) := by
  rw [Option.map_eq_bind]
  rfl

theorem tag?_closing : tag? ["endfor"] = some .closeEach ∧ tag? ["endif"] = some .closeGuarded :=
  ⟨rfl, rfl⟩

/-! ### Building parts -/

/-- The part that a text makes, if it is not empty. -/
def textNodes (text : List Char) : List Node :=
  if text.isEmpty then [] else [.text (String.ofList text)]

theorem nodes?_text : nodes? opens parts (.text text :: rest) =
    nodes? opens ((textNodes text).reverse ++ parts) rest := by
  cases text with
  | nil => cases opens <;> rfl
  | cons c text => cases opens <;> rfl

theorem nodes?_place (htokens : tokens? [] inside = some tokens)
    (hpath : path? tokens = some path) :
    nodes? opens parts (.place inside :: rest) = nodes? opens (.value path :: parts) rest := by
  have h : nodes? opens parts (.place inside :: rest) =
      ((tokens? [] inside).bind path?).bind fun path ↦
        nodes? opens (.value path :: parts) rest := by
    rw [Option.bind_assoc]
    cases opens <;> rfl
  rw [h, htokens, Option.bind_some, hpath, Option.bind_some]

/-- A loop is opened: what was read so far stands before it. -/
theorem nodes?_openEach (htokens : tokens? [] inside = some ("for" :: item :: "in" :: tokens))
    (hitem : isBindable item) (hpath : path? tokens = some path) :
    nodes? opens parts (.tag inside :: rest) = nodes? (.each item path parts :: opens) [] rest := by
  cases opens <;>
  · show ((tokens? [] inside).bind fun tokens ↦ (tag? tokens).bind _) = _
    rw [htokens, Option.bind_some, tag?_openEach hitem, hpath]
    rfl

theorem nodes?_closeEach (htokens : tokens? [] inside = some ["endfor"]) :
    nodes? (.each item path before :: opens) parts (.tag inside :: rest) =
      nodes? opens (.each item path parts.reverse :: before) rest := by
  show ((tokens? [] inside).bind fun tokens ↦ (tag? tokens).bind _) = _
  rw [htokens, Option.bind_some, tag?_closing.1]
  rfl

/-- A passage that depends on a condition's being false is opened. -/
theorem nodes?_openGuarded (htokens : tokens? [] inside = some ("if" :: "not" :: tokens))
    (hpath : path? tokens = some path) :
    nodes? opens parts (.tag inside :: rest) =
      nodes? (.guarded false path parts :: opens) [] rest := by
  cases opens <;>
  · show ((tokens? [] inside).bind fun tokens ↦ (tag? tokens).bind _) = _
    rw [htokens, Option.bind_some, tag?_openGuarded, hpath]
    rfl

theorem nodes?_closeGuarded (htokens : tokens? [] inside = some ["endif"]) :
    nodes? (.guarded expected path before :: opens) parts (.tag inside :: rest) =
      nodes? opens (.guarded expected path parts.reverse :: before) rest := by
  show ((tokens? [] inside).bind fun tokens ↦ (tag? tokens).bind _) = _
  rw [htokens, Option.bind_some, tag?_closing.2]
  rfl

/-! ### Parts of plain templates -/

/-- The parts of a place and of the text in front of it. -/
def placeNodes (place : String × Template.Path) : List Node :=
  textNodes place.1.toList ++ [.value (readPath place.2)]

/-- The parts of a line that ends in some characters. -/
def lineNodes (feed : List Char) (line : Line) : List Node :=
  line.places.flatMap placeNodes ++ textNodes (line.ending.toList ++ feed)

/-- The path of the condition that the turn of a loop is the last one. -/
def lastPath : Path where
  name := "loop"
  fields := ["last"]

/-- The parts of a passage. -/
def passageNodes : Passage → List Node
  | .line line => lineNodes ['\n'] line
  | .unlessLast lines => [.guarded false lastPath (lines.flatMap (lineNodes ['\n']))]

/-- The parts of a block. -/
def blockNodes : Block → List Node
  | .line line => lineNodes ['\n'] line
  | .each item source body => [.each item { name := source } (body.flatMap passageNodes)]

/-- The parts of a template. -/
def templateNodes : Plain → List Node
  | [] => []
  | [.line line] => lineNodes [] line
  | block :: blocks => blockNodes block ++ templateNodes blocks

/-- What is read one after the other. -/
theorem nodes?_flatMap {α : Type} {pieces : α → List Piece} {nodes : α → List Node} {xs : List α}
    (h : ∀ x ∈ xs, ∀ parts rest, nodes? opens parts (pieces x ++ rest) =
      nodes? opens ((nodes x).reverse ++ parts) rest) (parts : List Node) (rest : List Piece) :
    nodes? opens parts (xs.flatMap pieces ++ rest) =
      nodes? opens ((xs.flatMap nodes).reverse ++ parts) rest := by
  induction xs generalizing parts with
  | nil => rfl
  | cons x xs ih =>
    rw [List.forall_mem_cons] at h
    rw [List.flatMap_cons, List.append_assoc, h.1, ih h.2]
    simp

theorem nodes?_linePieces {line : Line} (h : line.isPlain) (feed : List Char) (parts : List Node)
    (rest : List Piece) :
    nodes? opens parts (linePieces feed line ++ rest) =
      nodes? opens ((lineNodes feed line).reverse ++ parts) rest := by
  simp only [Line.isPlain, Bool.and_eq_true, List.all_eq_true] at h
  have hplaces : ∀ place ∈ line.places, ∀ parts rest,
      nodes? opens parts (placePieces place ++ rest) =
        nodes? opens ((placeNodes place).reverse ++ parts) rest := by
    intro place hplace parts rest
    have hpath : place.2.isPlain := (h.1 place hplace).2
    rw [placePieces, List.cons_append, List.cons_append, List.nil_append, nodes?_text,
      nodes?_place (tokens?_inside hpath) (path?_tokens hpath)]
    simp [placeNodes]
  rw [linePieces, List.append_assoc, nodes?_flatMap hplaces, List.cons_append, List.nil_append,
    nodes?_text]
  simp [lineNodes]

theorem nodes?_passagePieces {passage : Passage} (h : passage.isPlain) (parts : List Node)
    (rest : List Piece) :
    nodes? opens parts (passagePieces passage ++ rest) =
      nodes? opens ((passageNodes passage).reverse ++ parts) rest := by
  cases passage with
  | line line => exact nodes?_linePieces h _ parts rest
  | unlessLast lines =>
    rw [Passage.isPlain, List.all_eq_true] at h
    obtain ⟨hif, hendif, -⟩ := tokens?_fixed
    have hlast : path? ["loop", ".", "last"] = some lastPath := by decide
    rw [passagePieces, List.append_assoc, List.append_assoc, List.cons_append, List.cons_append,
      List.nil_append, nodes?_text, nodes?_openGuarded hif hlast,
      nodes?_flatMap fun line hline ↦ nodes?_linePieces (h line hline) ['\n'], List.cons_append,
      List.cons_append, List.nil_append, nodes?_text, nodes?_closeGuarded hendif]
    simp [textNodes, passageNodes]

theorem nodes?_blockPieces {block : Block} (h : block.isPlain) (parts : List Node)
    (rest : List Piece) :
    nodes? opens parts (blockPieces block ++ rest) =
      nodes? opens ((blockNodes block).reverse ++ parts) rest := by
  cases block with
  | line line => exact nodes?_linePieces h _ parts rest
  | each item source body =>
    simp only [Block.isPlain, Bool.and_eq_true, List.all_eq_true] at h
    obtain ⟨⟨hitem, hsource⟩, hbody⟩ := h
    have hplain : ({ name := source } : Template.Path).isPlain := by
      simpa [Template.Path.isPlain] using hsource
    have hpath : path? [source] = some { name := source } := path?_tokens hplain
    rw [blockPieces, List.append_assoc, List.append_assoc, List.cons_append, List.cons_append,
      List.nil_append, nodes?_text,
      nodes?_openEach (tokens?_eachInside hitem hsource) (isBindable_of_isPlainName hitem) hpath,
      nodes?_flatMap fun passage hpassage ↦ nodes?_passagePieces (hbody passage hpassage),
      List.cons_append, List.cons_append, List.nil_append, nodes?_text,
      nodes?_closeEach tokens?_fixed.2.2]
    simp [textNodes, blockNodes]

theorem nodes?_templatePieces {template : Plain} (h : template.isPlain) (parts : List Node) :
    nodes? [] parts (templatePieces template) = some (parts.reverse ++ templateNodes template) := by
  have hend : ∀ parts, nodes? [] parts [.text []] = some parts.reverse := fun _ ↦ rfl
  induction template generalizing parts with
  | nil => simp [templatePieces, hend, templateNodes]
  | cons block blocks ih =>
    simp only [Plain.isPlain, List.all_cons, Bool.and_eq_true] at h
    obtain ⟨hblock, hblocks⟩ := h
    have hbehind : nodes? [] parts (blockPieces block ++ templatePieces blocks) =
        some (parts.reverse ++ (blockNodes block ++ templateNodes blocks)) := by
      rw [nodes?_blockPieces hblock, ih hblocks]
      simp
    cases blocks with
    | cons next blocks => cases block <;> exact hbehind
    | nil =>
      cases block with
      | each item source body => exact hbehind
      | line line =>
        have hline : nodes? [] parts (linePieces [] line ++ []) = _ :=
          nodes?_linePieces hblock [] parts []
        rw [List.append_nil] at hline
        rw [templatePieces, hline, nodes?, templateNodes]
        simp

end BindingGlue.Interpreter
