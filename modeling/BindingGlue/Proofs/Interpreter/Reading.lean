import BindingGlue.Proofs.Interpreter.Nodes
import BindingGlue.Proofs.Text.LineEnds

/-!
# Plain templates, read

The interpreter reads a plain template as its parts (`read_text`). Reading does three things beside
turning pieces into parts, and none of them touches a plain template: ends of lines are made line
feeds, but there are no others; names are spelled as their frames have them, but an ordinary name is
no other spelling of another one (`spelled_of_allOrdinary`); and deep constructs are refused, but a
plain template has a loop and a passage inside each other at most.
-/

namespace BindingGlue.Interpreter

open Template (Line Passage Block Plain isPlainText isPlainName reservedNames)

variable {path : Path} {item name : String} {c : Char}

/-! ### Spellings -/

/-- Whether a name is one of lower-case letters, and not the one that a template gives itself. -/
def isOrdinaryName (name : String) : Bool :=
  name.toList.all Char.isLower && name != Template.selfName

/-- Whether a path starts from an ordinary name that is spelled as it stands. -/
def Path.isOrdinary (path : Path) : Bool :=
  isOrdinaryName path.name && path.spelling == path.name && !path.isGlobal

mutual

/-- Whether all names that a part mentions are ordinary. -/
def Node.isOrdinary : Node → Bool
  | .text _ => true
  | .value path => path.isOrdinary
  | .each item source body => isOrdinaryName item && source.isOrdinary && allOrdinary body
  | .guarded _ condition body => condition.isOrdinary && allOrdinary body

/-- Whether all names that parts mention are ordinary. -/
def allOrdinary : List Node → Bool
  | [] => true
  | node :: nodes => node.isOrdinary && allOrdinary nodes

end

/-- Ordinary names are the same identifier only if they are the same. -/
theorem sameIdentifier_of_isOrdinaryName {other : String} (h : isOrdinaryName name)
    (hother : isOrdinaryName other) : Text.sameIdentifier name other = (name == other) := by
  have hform : ∀ name, isOrdinaryName name → Text.identifierForm name = name.toList := by
    intro name h
    simp only [isOrdinaryName, Bool.and_eq_true, List.all_eq_true] at h
    have hascii : ∀ c ∈ name.toList,
        (if c.toNat < 0x80 then [c] else Text.letterForm 3 c) = [c] := by
      intro c hc
      have hbound := (toNat_of_isLower (h.1 c hc)).2
      rw [if_pos (by omega)]
    rw [Text.identifierForm, List.flatMap_def, List.map_congr_left hascii, ← List.flatMap_def]
    simp
  rw [Text.sameIdentifier, hform name h, hform other hother]
  by_cases heq : name = other <;> simp [heq, String.toList_inj]

/-- A frame whose names are all ordinary. -/
def Frame.IsOrdinary (frame : Frame) : Prop :=
  ∀ name ∈ frame.names, isOrdinaryName name

theorem spelled_of_isOrdinary {frames : List Frame} (hframes : ∀ frame ∈ frames, frame.IsOrdinary)
    (h : path.isOrdinary) : path.spelled frames = path := by
  simp only [Path.isOrdinary, Bool.and_eq_true, beq_iff_eq, Bool.not_eq_true'] at h
  obtain ⟨⟨hname, hspelling⟩, hglobal⟩ := h
  rw [Path.spelled]
  cases hfind : frames.find? (·.names.contains path.name) with
  | none => rfl
  | some frame =>
    have hframe := hframes frame (List.mem_of_find?_eq_some hfind)
    have hmem : path.name ∈ frame.names := by simpa using List.find?_some hfind
    have hfilter : frame.names.filter (Text.sameIdentifier path.name) =
        frame.names.filter (path.name == ·) :=
      List.filter_congr fun other hother ↦
        sameIdentifier_of_isOrdinaryName hname (hframe other hother)
    have hlast : ∀ spelling, (frame.names.filter (path.name == ·)).getLast? = some spelling →
        spelling = path.name := by
      intro spelling hspelling
      have := (List.mem_filter.1 (List.mem_of_getLast? hspelling)).2
      exact (beq_iff_eq.1 this).symm
    simp only [hfilter]
    cases hspelled : (frame.names.filter (path.name == ·)).getLast? with
    | none => rfl
    | some spelling =>
      obtain rfl := hlast spelling hspelled
      simp only [bne_self_eq_false, Bool.false_and]
      cases path
      simp only at hspelling hglobal
      rw [← hspelling, hglobal]

mutual

theorem Node.asked_of_isOrdinary : ∀ {node : Node}, node.isOrdinary →
    ∀ name ∈ node.asked, isOrdinaryName name
  | .text _, _ => by simp [Node.asked]
  | .value path, h => by
    simp only [Node.isOrdinary, Path.isOrdinary, Bool.and_eq_true] at h
    simpa [Node.asked] using h.1.1
  | .each _ source _, h => by
    simp only [Node.isOrdinary, Path.isOrdinary, Bool.and_eq_true] at h
    simpa [Node.asked] using h.1.2.1.1
  | .guarded _ condition body, h => by
    simp only [Node.isOrdinary, Path.isOrdinary, Bool.and_eq_true] at h
    simpa [Node.asked, h.1.1.1] using asked_of_allOrdinary h.2

/-- The names that ordinary parts ask for are ordinary. -/
theorem asked_of_allOrdinary : ∀ {nodes : List Node}, allOrdinary nodes →
    ∀ name ∈ askedAll nodes, isOrdinaryName name
  | [], _ => by simp [askedAll]
  | node :: nodes, h => by
    rw [allOrdinary, Bool.and_eq_true] at h
    rw [askedAll, List.forall_mem_append]
    exact ⟨Node.asked_of_isOrdinary h.1, asked_of_allOrdinary h.2⟩

end

theorem Frame.isOrdinary_inside {around : List Frame} {given asked : List String}
    (hgiven : ∀ name ∈ given, isOrdinaryName name) (hasked : ∀ name ∈ asked, isOrdinaryName name) :
    (Frame.inside around given asked).IsOrdinary := by
  intro name hname
  simp only [Frame.names, Frame.inside, List.mem_append, List.mem_eraseDups, List.mem_filter]
    at hname
  rcases hname with hname | ⟨hname, -⟩
  · exact hgiven name hname
  · exact hasked name hname

theorem givenNames_of_isOrdinaryName {body : List Node} (hitem : isOrdinaryName item) :
    ∀ name ∈ givenNames item body, isOrdinaryName name := by
  have hloop : isOrdinaryName loopName := by decide
  rw [givenNames]
  split <;> simp [hitem, hloop]

mutual

theorem Node.spelled_of_isOrdinary : ∀ {node : Node} {frames : List Frame},
    (∀ frame ∈ frames, frame.IsOrdinary) → node.isOrdinary → node.spelled frames = node
  | .text _, _, _, _ => rfl
  | .value path, _, hframes, h => by
    rw [Node.spelled, Interpreter.spelled_of_isOrdinary hframes h]
  | .each item source body, frames, hframes, h => by
    simp only [Node.isOrdinary, Bool.and_eq_true] at h
    have hgiven : ∀ name ∈ givenNames item body, isOrdinaryName name :=
      givenNames_of_isOrdinaryName h.1.1
    have hframe : (Frame.inside frames (givenNames item body) _).IsOrdinary :=
      Frame.isOrdinary_inside hgiven (asked_of_allOrdinary h.2)
    rw [Node.spelled, Interpreter.spelled_of_isOrdinary hframes h.1.2]
    simp only [spelledAll_of_allOrdinary (List.forall_mem_cons.2 ⟨hframe, hframes⟩) h.2]
  | .guarded _ condition body, _, hframes, h => by
    simp only [Node.isOrdinary, Bool.and_eq_true] at h
    rw [Node.spelled, Interpreter.spelled_of_isOrdinary hframes h.1,
      spelledAll_of_allOrdinary hframes h.2]

/-- Ordinary names are spelled in one way only. -/
theorem spelledAll_of_allOrdinary : ∀ {nodes : List Node} {frames : List Frame},
    (∀ frame ∈ frames, frame.IsOrdinary) → allOrdinary nodes → spelledAll frames nodes = nodes
  | [], _, _, _ => rfl
  | node :: nodes, _, hframes, h => by
    rw [allOrdinary, Bool.and_eq_true] at h
    rw [spelledAll, Node.spelled_of_isOrdinary hframes h.1, spelledAll_of_allOrdinary hframes h.2]

end

mutual

theorem Node.asks?_of_isOrdinary : ∀ {node : Node}, node.isOrdinary →
    node.asks? Template.selfName = none
  | .text _, _ => rfl
  | .value path, h => by
    simp only [Node.isOrdinary, Path.isOrdinary, isOrdinaryName, Bool.and_eq_true, bne_iff_ne] at h
    simp [Node.asks?, Path.asks?, h.1.1.2]
  | .each item source body, h => by
    simp only [Node.isOrdinary, Path.isOrdinary, isOrdinaryName, Bool.and_eq_true, bne_iff_ne] at h
    simp [Node.asks?, Path.asks?, h.1.1.2, h.1.2.1.1.2, asksAny?_of_allOrdinary h.2]
  | .guarded _ condition body, h => by
    simp only [Node.isOrdinary, Path.isOrdinary, isOrdinaryName, Bool.and_eq_true, bne_iff_ne] at h
    simp [Node.asks?, Path.asks?, h.1.1.1.2, asksAny?_of_allOrdinary h.2]

/-- Ordinary parts do not mention the template itself. -/
theorem asksAny?_of_allOrdinary : ∀ {nodes : List Node}, allOrdinary nodes →
    asksAny? Template.selfName nodes = none
  | [], _ => rfl
  | node :: nodes, h => by
    rw [allOrdinary, Bool.and_eq_true] at h
    rw [asksAny?, Node.asks?_of_isOrdinary h.1, asksAny?_of_allOrdinary h.2]
    rfl

end

theorem knowsItself_of_allOrdinary {nodes : List Node} (h : allOrdinary nodes) :
    knowsItself nodes = false := by
  simp [knowsItself, asksAny?_of_allOrdinary h]

theorem spelled_of_allOrdinary {nodes : List Node} (h : allOrdinary nodes) :
    spelled nodes = nodes := by
  rw [spelled, knowsItself_of_allOrdinary h]
  exact spelledAll_of_allOrdinary
    (List.forall_mem_singleton.2
      (Frame.isOrdinary_inside (by simp) (asked_of_allOrdinary h))) h

theorem allOrdinary_append {nodes nodes' : List Node} :
    allOrdinary (nodes ++ nodes') = (allOrdinary nodes && allOrdinary nodes') := by
  induction nodes with
  | nil => rfl
  | cons node nodes ih => rw [List.cons_append, allOrdinary, ih, allOrdinary, Bool.and_assoc]

theorem allOrdinary_flatMap {α : Type} {nodes : α → List Node} {xs : List α}
    (h : ∀ x ∈ xs, allOrdinary (nodes x)) : allOrdinary (xs.flatMap nodes) := by
  induction xs with
  | nil => rfl
  | cons x xs ih =>
    rw [List.forall_mem_cons] at h
    rw [List.flatMap_cons, allOrdinary_append, h.1, ih h.2]
    rfl

theorem isOrdinaryName_of_isPlainName (h : isPlainName reservedNames name) :
    isOrdinaryName name := by
  have hself : name ≠ Template.selfName := ne_of_isPlainName h (by decide)
  simp only [isOrdinaryName, Bool.and_eq_true, bne_iff_ne, List.all_eq_true]
  exact ⟨isLower_of_isPlainName h, hself⟩

theorem isOrdinary_readPath {path : Template.Path} (h : path.isPlain) :
    (readPath path).isOrdinary := by
  rw [Template.Path.isPlain, Bool.and_eq_true] at h
  simp [Path.isOrdinary, readPath, isOrdinaryName_of_isPlainName h.1]

theorem allOrdinary_textNodes (text : List Char) : allOrdinary (textNodes text) := by
  cases text <;> rfl

theorem allOrdinary_lineNodes {line : Line} (h : line.isPlain) (feed : List Char) :
    allOrdinary (lineNodes feed line) := by
  simp only [Line.isPlain, Bool.and_eq_true, List.all_eq_true] at h
  have hplaces : ∀ place ∈ line.places, allOrdinary (placeNodes place) := by
    intro place hplace
    have hpath : (readPath place.2).isOrdinary := isOrdinary_readPath (h.1 place hplace).2
    simp [placeNodes, allOrdinary_append, allOrdinary_textNodes, allOrdinary, Node.isOrdinary,
      hpath]
  rw [lineNodes, allOrdinary_append, allOrdinary_flatMap hplaces, allOrdinary_textNodes]
  rfl

theorem allOrdinary_passageNodes {passage : Passage} (h : passage.isPlain) :
    allOrdinary (passageNodes passage) := by
  cases passage with
  | line line => exact allOrdinary_lineNodes h _
  | unlessLast lines =>
    rw [Passage.isPlain, List.all_eq_true] at h
    have hlines := allOrdinary_flatMap fun line hline ↦ allOrdinary_lineNodes (h line hline) ['\n']
    have hlast : lastPath.isOrdinary := by decide
    simp [passageNodes, allOrdinary, Node.isOrdinary, hlast, hlines]

theorem allOrdinary_blockNodes {block : Block} (h : block.isPlain) :
    allOrdinary (blockNodes block) := by
  cases block with
  | line line => exact allOrdinary_lineNodes h _
  | each item source body =>
    simp only [Block.isPlain, Bool.and_eq_true, List.all_eq_true] at h
    obtain ⟨⟨hitem, hsource⟩, hbody⟩ := h
    have hbody' := allOrdinary_flatMap fun passage hpassage ↦
      allOrdinary_passageNodes (hbody passage hpassage)
    simp [blockNodes, allOrdinary, Node.isOrdinary, Path.isOrdinary, hbody',
      isOrdinaryName_of_isPlainName hitem, isOrdinaryName_of_isPlainName hsource]

theorem allOrdinary_templateNodes {template : Plain} (h : template.isPlain) :
    allOrdinary (templateNodes template) := by
  induction template with
  | nil => rfl
  | cons block blocks ih =>
    simp only [Plain.isPlain, List.all_cons, Bool.and_eq_true] at h
    have hbehind : allOrdinary (blockNodes block ++ templateNodes blocks) := by
      rw [allOrdinary_append, allOrdinary_blockNodes h.1, ih h.2]
      rfl
    cases blocks with
    | cons next blocks => cases block <;> exact hbehind
    | nil =>
      cases block with
      | each item source body => exact hbehind
      | line line => exact allOrdinary_lineNodes h.1 _

/-! ### Depth -/

theorem fitAll_append {loops constructs : Nat} {nodes nodes' : List Node} :
    fitAll loops constructs (nodes ++ nodes') =
      (fitAll loops constructs nodes && fitAll loops constructs nodes') := by
  induction nodes with
  | nil => rfl
  | cons node nodes ih => rw [List.cons_append, fitAll, ih, fitAll, Bool.and_assoc]

theorem fitAll_flatMap {α : Type} {loops constructs : Nat} {nodes : α → List Node} {xs : List α}
    (h : ∀ x ∈ xs, fitAll loops constructs (nodes x)) :
    fitAll loops constructs (xs.flatMap nodes) := by
  induction xs with
  | nil => rfl
  | cons x xs ih =>
    rw [List.forall_mem_cons] at h
    rw [List.flatMap_cons, fitAll_append, h.1, ih h.2]
    rfl

theorem fits_readPath (path : Template.Path) : (readPath path).fits (maxFields - 1) := by
  cases hfield : path.field? <;> simp [Path.fits, readPath, hfield, maxFields]

/-- A line has no constructs. -/
theorem fitAll_lineNodes (loops constructs : Nat) (feed : List Char) (line : Line) :
    fitAll loops constructs (lineNodes feed line) := by
  have htext : ∀ text, fitAll loops constructs (textNodes text) := by
    intro text
    cases text <;> rfl
  have hplaces : ∀ place ∈ line.places, fitAll loops constructs (placeNodes place) := by
    intro place _
    simp [placeNodes, fitAll_append, htext, fitAll, Node.fits, fits_readPath]
  rw [lineNodes, fitAll_append, fitAll_flatMap hplaces, htext]
  rfl

theorem fitAll_passageNodes (loops constructs : Nat) (passage : Passage) :
    fitAll loops (constructs + 1) (passageNodes passage) := by
  cases passage with
  | line line => exact fitAll_lineNodes _ _ _ _
  | unlessLast lines =>
    have hlast : lastPath.fits maxFields := by decide
    have hlines : fitAll loops constructs (lines.flatMap (lineNodes ['\n'])) :=
      fitAll_flatMap fun line _ ↦ fitAll_lineNodes loops constructs ['\n'] line
    simp [passageNodes, fitAll, Node.fits, hlast, hlines]

theorem fitAll_blockNodes (loops constructs : Nat) (block : Block) :
    fitAll (loops + 1) (constructs + 2) (blockNodes block) := by
  cases block with
  | line line => exact fitAll_lineNodes _ _ _ _
  | each item source body =>
    have hsource : ({ name := source } : Path).fits (maxFields - 1) := by
      simp [Path.fits]
    have hbody : fitAll loops (constructs + 1) (body.flatMap passageNodes) :=
      fitAll_flatMap fun passage _ ↦ fitAll_passageNodes loops constructs passage
    simp [blockNodes, fitAll, Node.fits, hsource, hbody]

/-- The constructs of a plain template stand at most two deep inside each other. -/
theorem fitAll_templateNodes (loops constructs : Nat) (template : Plain) :
    fitAll (loops + 1) (constructs + 2) (templateNodes template) := by
  induction template with
  | nil => rfl
  | cons block blocks ih =>
    have hbehind : fitAll (loops + 1) (constructs + 2)
        (blockNodes block ++ templateNodes blocks) := by
      rw [fitAll_append, fitAll_blockNodes, ih]
      rfl
    cases blocks with
    | cons next blocks => cases block <;> exact hbehind
    | nil =>
      cases block with
      | each item source body => exact hbehind
      | line line => exact fitAll_lineNodes _ _ _ _

/-! ### The whole text -/

theorem return_notMem_line {line : Line} (h : line.isPlain) : '\r' ∉ line.source.toList := by
  simp only [Line.isPlain, Bool.and_eq_true, List.all_eq_true] at h
  have hplaces : ∀ place ∈ line.places, '\r' ∉ (place.1 ++ place.2.place).toList := by
    intro place hplace
    obtain ⟨hfront, hpath⟩ := h.1 place hplace
    have hreturn := (feed_notMem_of_isPlainText hfront).2.1
    have htext : '\r' ∉ place.2.text.toList :=
      notMem_text_of_isPlain hpath (by decide) (by decide)
    simp only [String.toList_append, List.mem_append, not_or] at hreturn
    simp [toList_place, inside, hreturn.1, htext]
  have hending := (feed_notMem_of_isPlainText h.2).2.1
  have hjoined : '\r' ∉
      (String.join (line.places.map fun place ↦ place.1 ++ place.2.place)).toList := by
    rw [String.toList_join, List.mem_flatMap]
    rintro ⟨s, hs, hmem⟩
    obtain ⟨place, hplace, rfl⟩ := List.mem_map.1 hs
    exact hplaces place hplace hmem
  have hfeed : '\r' ∉ "\n".toList := by decide
  rw [Line.source, String.toList_append, String.toList_append, List.mem_append, List.mem_append,
    not_or, not_or]
  exact ⟨⟨hjoined, hending⟩, hfeed⟩

theorem return_notMem_passage {passage : Passage} (h : passage.isPlain) :
    '\r' ∉ passage.source.toList := by
  cases passage with
  | line line => exact return_notMem_line h
  | unlessLast lines =>
    rw [Passage.isPlain, List.all_eq_true] at h
    simpa [Passage.source, toList_tag] using fun line hline ↦ return_notMem_line (h line hline)

theorem return_notMem_block {block : Block} (h : block.isPlain) :
    '\r' ∉ block.source.toList := by
  cases block with
  | line line => exact return_notMem_line h
  | each item source body =>
    simp only [Block.isPlain, Bool.and_eq_true, List.all_eq_true] at h
    obtain ⟨⟨hitem, hsource⟩, hbody⟩ := h
    simpa [Block.source, toList_tag, notMem_of_isPlainName hitem, notMem_of_isPlainName hsource]
      using fun passage hpassage ↦ return_notMem_passage (hbody passage hpassage)

theorem return_notMem_text {template : Plain} (h : template.isPlain) :
    '\r' ∉ template.text.toList := by
  rw [Plain.isPlain, List.all_eq_true] at h
  simpa [Plain.text] using fun block hblock ↦ return_notMem_block (h block hblock)

/-- Every block ends in a line feed. -/
theorem exists_toList_source (block : Block) : ∃ front, block.source.toList = front ++ ['\n'] := by
  cases block with
  | line line =>
    refine ⟨(String.join (line.places.map fun place ↦ place.1 ++ place.2.place)).toList ++
      line.ending.toList, ?_⟩
    simp [Block.source, Line.source]
  | each item source body =>
    refine ⟨(Template.tag (eachInside item source) ++
      String.join (body.map Passage.source) ++ "\x7b% endfor %\x7d").toList, ?_⟩
    simp [Block.source, Template.tag, eachInside]

theorem toList_text_cons (block : Block) (blocks : Plain) :
    (Plain.text (block :: blocks)).toList = block.source.toList ++ blocks.text.toList := by
  simp [Plain.text]

/-- A template that is not empty ends in a line feed, which is all that `unended` leaves out. -/
theorem toList_text_eq_unended (block : Block) (blocks : Plain) :
    (Plain.text (block :: blocks)).toList = unended (block :: blocks) ++ ['\n'] := by
  induction blocks generalizing block with
  | nil =>
    obtain ⟨front, hfront⟩ := exists_toList_source block
    simp [Plain.text, unended, hfront]
  | cons next blocks ih =>
    rw [toList_text_cons, ih next, ← List.append_assoc]
    rfl

theorem sourceText_text {template : Plain} (h : template.isPlain) :
    sourceText template.text.toList = unended template := by
  rw [sourceText, Text.unixNewlines_of_notMem (return_notMem_text h)]
  cases template with
  | nil => rfl
  | cons block blocks => simp [toList_text_eq_unended]

/-- **A plain template is read as its parts.** -/
theorem read_text {template : Plain} (h : template.isPlain) :
    read template.text = .ok (templateNodes template) := by
  have hnodes : nodes? [] [] (templatePieces template) = some (templateNodes template) :=
    nodes?_templatePieces h []
  rw [read, sourceText_text h, pieces?_unended h, Option.bind_some, hnodes]
  simp only [maxLoops, maxConstructs, fitAll_templateNodes, if_true,
    spelled_of_allOrdinary (allOrdinary_templateNodes h)]

end BindingGlue.Interpreter
