import BindingGlue.Interpreter.Reader

/-!
# The pieces of plain templates

The scan of the interpreter cuts the text of a plain template into the pieces that its lines and
tags are made of (`pieces?_unended`). Text in which nothing opens is taken up one character at a
time, a place and a tag end at the first pair of characters that can close them, and a line begins
after each line feed and after each tag, so the pieces of a line do not depend on what stands before
it.
-/

namespace BindingGlue.Interpreter

open Template (Line Passage Block Plain opens isPlainText isPlainName)

variable {startsLine : Bool} {s rest seen : List Char} {c : Char}

/-! ### What opens -/

theorem opens_singleton : opens [c] = false := by
  by_cases h : c = '\x7b' <;> simp [opens, h]

theorem opens_cons_cons {d : Char} : opens (c :: d :: s) =
    (decide (c = '\x7b') && (d = '\x7b' || d = '%' || d = '#') || opens (d :: s)) := by
  by_cases h : c = '\x7b' <;> simp [opens, h]

theorem opens_take_of_append (h : opens (c :: (s ++ rest.take 1)) = false) :
    opens (c :: (s ++ rest).take 1) = false := by
  cases s with
  | nil => exact h
  | cons d s =>
    simp only [List.cons_append, opens_cons_cons, Bool.or_eq_false_iff] at h
    simp [opens_cons_cons, opens_singleton, h.1]

theorem opens_of_opens_cons (h : opens (c :: s) = false) : opens s = false := by
  cases s with
  | nil => rfl
  | cons d s =>
    rw [opens_cons_cons, Bool.or_eq_false_iff] at h
    exact h.2

theorem opens_append_singleton (hs : opens s = false) (hc : c ∉ ['\x7b', '%', '#']) :
    opens (s ++ [c]) = false := by
  induction s with
  | nil => exact opens_singleton
  | cons d s ih =>
    have ih := ih (opens_of_opens_cons hs)
    cases s with
    | nil => simp_all [opens_cons_cons]
    | cons e s => simp_all [opens_cons_cons]

/-! ### Steps of the scan -/

theorem pieces?_nil : pieces? (.outside startsLine) seen [] = some [.text seen.reverse] := rfl

theorem pieces?_openPlace : pieces? (.outside startsLine) seen ('\x7b' :: '\x7b' :: rest) =
    (pieces? .inPlace [] rest).map (.text seen.reverse :: ·) := by
  rw [Option.map_eq_bind]
  rfl

theorem pieces?_openTag : pieces? (.outside startsLine) seen ('\x7b' :: '%' :: rest) =
    (pieces? .inTag [] rest).map (.text (withoutIndent startsLine seen.reverse) :: ·) := by
  rw [Option.map_eq_bind]
  rfl

theorem pieces?_lineFeed : pieces? (.outside startsLine) seen ('\n' :: rest) =
    (pieces? (.outside true) [] rest).map (.text (seen.reverse ++ ['\n']) :: ·) := by
  rw [Option.map_eq_bind, ← List.reverse_cons]
  rfl

theorem pieces?_closePlace : pieces? .inPlace seen ('\x7d' :: '\x7d' :: rest) =
    (pieces? (.outside false) [] rest).map (.place seen.reverse :: ·) := by
  rw [Option.map_eq_bind]
  rfl

/-- A tag takes the line feed behind it away. -/
theorem pieces?_closeTag : pieces? .inTag seen ('%' :: '\x7d' :: '\n' :: rest) =
    (pieces? (.outside true) [] rest).map (.tag seen.reverse :: ·) := by
  rw [Option.map_eq_bind]
  rfl

theorem pieces?_closeLastTag :
    pieces? .inTag seen ['%', '\x7d'] = some [.tag seen.reverse, .text []] := rfl

/-- A character that opens nothing and ends no line belongs to the text. -/
theorem pieces?_outside_cons (hc : c ≠ '\n') (hopens : opens (c :: rest.take 1) = false) :
    pieces? (.outside startsLine) seen (c :: rest) =
      pieces? (.outside startsLine) (c :: seen) rest := by
  rw [pieces?.eq_def]
  split <;> simp_all [opens_cons_cons]

theorem pieces?_inPlace_cons (hc : c ≠ '\x7d') :
    pieces? .inPlace seen (c :: rest) = pieces? .inPlace (c :: seen) rest := by
  rw [pieces?.eq_def]
  split <;> simp_all

theorem pieces?_inTag_cons (hc : c ≠ '%') :
    pieces? .inTag seen (c :: rest) = pieces? .inTag (c :: seen) rest := by
  rw [pieces?.eq_def]
  split <;> simp_all

/-! ### Text -/

/-- Text in which nothing opens is taken up, if nothing opens where it meets what follows. -/
theorem pieces?_append (hfeed : '\n' ∉ s) (hopens : opens (s ++ rest.take 1) = false) :
    pieces? (.outside startsLine) seen (s ++ rest) =
      pieces? (.outside startsLine) (s.reverse ++ seen) rest := by
  induction s generalizing seen with
  | nil => rfl
  | cons c s ih =>
    simp only [List.mem_cons, not_or] at hfeed
    rw [List.cons_append, pieces?_outside_cons (Ne.symm hfeed.1) (opens_take_of_append hopens),
      ih hfeed.2 (opens_of_opens_cons hopens)]
    simp

theorem feed_notMem_of_isPlainText {text : String} (h : isPlainText text) :
    '\n' ∉ text.toList ∧ '\r' ∉ text.toList ∧ opens text.toList = false := by
  simpa [isPlainText, and_assoc] using h

/-! ### Places and tags -/

/-- A place ends at the first brace in it. -/
theorem pieces?_inPlace (hs : '\x7d' ∉ s) :
    pieces? .inPlace seen (s ++ '\x7d' :: '\x7d' :: rest) =
      (pieces? (.outside false) [] rest).map (.place (seen.reverse ++ s) :: ·) := by
  induction s generalizing seen with
  | nil => rw [List.nil_append, pieces?_closePlace, List.append_nil]
  | cons c s ih =>
    simp only [List.mem_cons, not_or] at hs
    rw [List.cons_append, pieces?_inPlace_cons (Ne.symm hs.1), ih hs.2]
    simp

/-- A tag ends at the first percent sign in it. -/
theorem pieces?_inTag (hs : '%' ∉ s) :
    pieces? .inTag seen (s ++ '%' :: '\x7d' :: '\n' :: rest) =
      (pieces? (.outside true) [] rest).map (.tag (seen.reverse ++ s) :: ·) := by
  induction s generalizing seen with
  | nil => rw [List.nil_append, pieces?_closeTag, List.append_nil]
  | cons c s ih =>
    simp only [List.mem_cons, not_or] at hs
    rw [List.cons_append, pieces?_inTag_cons (Ne.symm hs.1), ih hs.2]
    simp

theorem pieces?_inTag_end (hs : '%' ∉ s) :
    pieces? .inTag seen (s ++ ['%', '\x7d']) = some [.tag (seen.reverse ++ s), .text []] := by
  induction s generalizing seen with
  | nil => rw [List.nil_append, pieces?_closeLastTag, List.append_nil]
  | cons c s ih =>
    simp only [List.mem_cons, not_or] at hs
    rw [List.cons_append, pieces?_inTag_cons (Ne.symm hs.1), ih hs.2]
    simp

theorem toList_tag (inside : String) :
    (Template.tag inside).toList = '\x7b' :: '%' :: (inside.toList ++ ['%', '\x7d', '\n']) := by
  simp [Template.tag]

/-- A tag that starts a line. -/
theorem pieces?_tag {inside : String} (hinside : '%' ∉ inside.toList) :
    pieces? (.outside true) [] ((Template.tag inside).toList ++ rest) =
      (pieces? (.outside true) [] rest).map ([.text [], .tag inside.toList] ++ ·) := by
  have htag : (Template.tag inside).toList ++ rest =
      '\x7b' :: '%' :: (inside.toList ++ '%' :: '\x7d' :: '\n' :: rest) := by
    simp [toList_tag]
  rw [htag, pieces?_openTag, pieces?_inTag hinside, Option.map_map]
  rfl

/-- A tag that ends a template, without its line feed. -/
theorem pieces?_lastTag {inside : String} (hinside : '%' ∉ inside.toList) :
    pieces? (.outside true) [] (Template.tag inside).toList.dropLast =
      some [.text [], .tag inside.toList, .text []] := by
  have htag : (Template.tag inside).toList =
      '\x7b' :: '%' :: (inside.toList ++ ['%', '\x7d']) ++ ['\n'] := by
    simp [toList_tag]
  rw [htag, List.dropLast_concat, pieces?_openTag, pieces?_inTag_end hinside]
  rfl

/-! ### Lines -/

/-- What stands between the braces of a place. -/
def inside (path : Template.Path) : List Char :=
  ' ' :: (path.text.toList ++ [' '])

theorem toList_place (path : Template.Path) :
    path.place.toList = '\x7b' :: '\x7b' :: (inside path ++ ['\x7d', '\x7d']) := by
  simp [Template.Path.place, inside]

/-- The characters of plain names are lower-case letters. -/
theorem isLower_of_isPlainName {reserved : List String} {name : String}
    (h : isPlainName reserved name) : ∀ c ∈ name.toList, c.isLower := by
  simp only [isPlainName, Bool.and_eq_true, List.all_eq_true] at h
  exact h.1.2

theorem notMem_of_isPlainName {reserved : List String} {name : String}
    (h : isPlainName reserved name) (hc : ¬c.isLower) : c ∉ name.toList :=
  fun hmem ↦ hc (isLower_of_isPlainName h c hmem)

theorem notMem_text_of_isPlain {path : Template.Path} (h : path.isPlain) (hlower : ¬c.isLower)
    (hdot : c ≠ '.') : c ∉ path.text.toList := by
  simp only [Template.Path.isPlain, Bool.and_eq_true] at h
  have hname := notMem_of_isPlainName h.1 hlower
  cases hfield : path.field? with
  | none => simpa [Template.Path.text, hfield] using hname
  | some field =>
    have hfield' := notMem_of_isPlainName (by simpa [hfield] using h.2) hlower
    simp [Template.Path.text, hfield, hname, hfield', hdot]

/-- The pieces of a place and of the text in front of it. -/
def placePieces (place : String × Template.Path) : List Piece :=
  [.text place.1.toList, .place (inside place.2)]

/-- The pieces of a line that ends in some characters. -/
def linePieces (feed : List Char) (line : Line) : List Piece :=
  line.places.flatMap placePieces ++ [.text (line.ending.toList ++ feed)]

theorem pieces?_place {front : String} {path : Template.Path}
    (hfront : isPlainText (front ++ "\x7b")) (hpath : path.isPlain) :
    pieces? (.outside startsLine) [] ((front ++ path.place).toList ++ rest) =
      (pieces? (.outside false) [] rest).map (placePieces (front, path) ++ ·) := by
  obtain ⟨hfeed, -, hopens⟩ := feed_notMem_of_isPlainText hfront
  rw [String.toList_append] at hfeed hopens
  have hbrace : '\x7d' ∉ inside path := by
    simp [inside, notMem_text_of_isPlain hpath]
  rw [String.toList_append, toList_place, List.append_assoc,
    pieces?_append (fun hmem ↦ hfeed (List.mem_append_left _ hmem)) (by simpa using hopens)]
  have hplace : '\x7b' :: '\x7b' :: (inside path ++ ['\x7d', '\x7d']) ++ rest =
      '\x7b' :: '\x7b' :: (inside path ++ '\x7d' :: '\x7d' :: rest) := by
    simp
  rw [hplace, pieces?_openPlace, pieces?_inPlace hbrace, Option.map_map]
  congr 1
  funext pieces
  simp [placePieces]

/-- The places of a line are cut off in order, in front of whatever ends it. -/
theorem pieces?_places {places : List (String × Template.Path)} {ending : List Char}
    {behind : Option (List Piece)}
    (hplaces : places.all fun (front, path) ↦ isPlainText (front ++ "\x7b") && path.isPlain)
    (hending : ∀ startsLine, pieces? (.outside startsLine) [] ending = behind) :
    pieces? (.outside startsLine) []
        ((String.join (places.map fun (front, path) ↦ front ++ path.place)).toList ++ ending) =
      behind.map (places.flatMap placePieces ++ ·) := by
  induction places generalizing startsLine with
  | nil => simpa using hending startsLine
  | cons place places ih =>
    simp only [List.all_cons, Bool.and_eq_true] at hplaces
    obtain ⟨⟨hfront, hpath⟩, hplaces⟩ := hplaces
    rw [List.map_cons, String.join_cons, String.toList_append, List.append_assoc,
      pieces?_place hfront hpath, ih hplaces, Option.map_map]
    rfl

/-- A plain line is cut into its pieces, and another line starts behind it. -/
theorem pieces?_line {line : Line} (h : line.isPlain) :
    pieces? (.outside startsLine) [] (line.source.toList ++ rest) =
      (pieces? (.outside true) [] rest).map (linePieces ['\n'] line ++ ·) := by
  simp only [Line.isPlain, Bool.and_eq_true] at h
  obtain ⟨hfeed, -, hopens⟩ := feed_notMem_of_isPlainText h.2
  have hending : ∀ startsLine,
      pieces? (.outside startsLine) [] (line.ending.toList ++ '\n' :: rest) =
        (pieces? (.outside true) [] rest).map (.text (line.ending.toList ++ ['\n']) :: ·) := by
    intro startsLine
    have hmeets : opens (line.ending.toList ++ ('\n' :: rest).take 1) = false :=
      opens_append_singleton hopens (by decide)
    rw [pieces?_append hfeed hmeets, pieces?_lineFeed, List.append_nil, List.reverse_reverse]
  have hsource : line.source.toList ++ rest =
      (String.join (line.places.map fun (front, path) ↦ front ++ path.place)).toList ++
        (line.ending.toList ++ '\n' :: rest) := by
    simp [Line.source]
  rw [hsource, pieces?_places h.1 hending, Option.map_map]
  congr 1
  funext pieces
  simp [linePieces]

/-- The last line of a template, whose line feed is taken away. -/
theorem pieces?_lastLine {line : Line} (h : line.isPlain) :
    pieces? (.outside startsLine) []
        ((String.join (line.places.map fun (front, path) ↦ front ++ path.place)).toList ++
          line.ending.toList) = some (linePieces [] line) := by
  simp only [Line.isPlain, Bool.and_eq_true] at h
  obtain ⟨hfeed, -, hopens⟩ := feed_notMem_of_isPlainText h.2
  have hending : ∀ startsLine, pieces? (.outside startsLine) [] line.ending.toList =
      some [.text line.ending.toList] := by
    intro startsLine
    have h : pieces? (.outside startsLine) [] (line.ending.toList ++ []) = _ :=
      pieces?_append hfeed (by simpa using hopens)
    simpa [pieces?_nil] using h
  rw [pieces?_places h.1 hending]
  simp [linePieces]

/-! ### Templates -/

/-- What is cut off one after the other at the starts of lines. -/
theorem pieces?_join {α : Type} {source : α → String} {pieces : α → List Piece} {xs : List α}
    (h : ∀ x ∈ xs, ∀ rest, pieces? (.outside true) [] ((source x).toList ++ rest) =
      (pieces? (.outside true) [] rest).map (pieces x ++ ·)) (rest : List Char) :
    pieces? (.outside true) [] ((String.join (xs.map source)).toList ++ rest) =
      (pieces? (.outside true) [] rest).map (xs.flatMap pieces ++ ·) := by
  induction xs with
  | nil => simp
  | cons x xs ih =>
    rw [List.forall_mem_cons] at h
    rw [List.map_cons, String.join_cons, String.toList_append, List.append_assoc, h.1, ih h.2,
      Option.map_map, List.flatMap_cons]
    congr 1
    funext pieces
    simp

/-- The inside of the tag that opens a loop. -/
def eachInside (item source : String) : String :=
  " for " ++ item ++ " in " ++ source ++ " "

theorem percent_notMem_eachInside {item source : String}
    (hitem : isPlainName Template.reservedNames item)
    (hsource : isPlainName Template.reservedNames source) :
    '%' ∉ (eachInside item source).toList := by
  simp [eachInside, notMem_of_isPlainName hitem, notMem_of_isPlainName hsource]

/-- The pieces of a passage. -/
def passagePieces : Passage → List Piece
  | .line line => linePieces ['\n'] line
  | .unlessLast lines =>
    [.text [], .tag " if not loop.last ".toList] ++ (lines.flatMap (linePieces ['\n']) ++
      [.text [], .tag " endif ".toList])

/-- The pieces of a block. -/
def blockPieces : Block → List Piece
  | .line line => linePieces ['\n'] line
  | .each item source body =>
    [.text [], .tag (eachInside item source).toList] ++ (body.flatMap passagePieces ++
      [.text [], .tag " endfor ".toList])

/-- The pieces of a template, the last line of which has no line feed. -/
def templatePieces : Plain → List Piece
  | [] => [.text []]
  | [.line line] => linePieces [] line
  | block :: blocks => blockPieces block ++ templatePieces blocks

theorem pieces?_passage {passage : Passage} (h : passage.isPlain) (rest : List Char) :
    pieces? (.outside true) [] (passage.source.toList ++ rest) =
      (pieces? (.outside true) [] rest).map (passagePieces passage ++ ·) := by
  cases passage with
  | line line => exact pieces?_line h
  | unlessLast lines =>
    rw [Passage.isPlain, List.all_eq_true] at h
    have hlines : ∀ line ∈ lines, ∀ rest,
        pieces? (.outside true) [] (line.source.toList ++ rest) =
          (pieces? (.outside true) [] rest).map (linePieces ['\n'] line ++ ·) :=
      fun line hline rest ↦ pieces?_line (h line hline)
    rw [Passage.source, String.toList_append, String.toList_append, List.append_assoc,
      List.append_assoc, pieces?_tag (by simp), pieces?_join hlines, pieces?_tag (by simp),
      Option.map_map, Option.map_map]
    congr 1
    funext pieces
    simp [passagePieces]

theorem pieces?_body {body : List Passage} (h : body.all Passage.isPlain) (rest : List Char) :
    pieces? (.outside true) [] ((String.join (body.map Passage.source)).toList ++ rest) =
      (pieces? (.outside true) [] rest).map (body.flatMap passagePieces ++ ·) := by
  rw [List.all_eq_true] at h
  exact pieces?_join (fun passage hpassage ↦ pieces?_passage (h passage hpassage)) rest

theorem pieces?_block {block : Block} (h : block.isPlain) (rest : List Char) :
    pieces? (.outside true) [] (block.source.toList ++ rest) =
      (pieces? (.outside true) [] rest).map (blockPieces block ++ ·) := by
  cases block with
  | line line => exact pieces?_line h
  | each item source body =>
    simp only [Block.isPlain, Bool.and_eq_true] at h
    obtain ⟨⟨hitem, hsource⟩, hbody⟩ := h
    have hinside := percent_notMem_eachInside hitem hsource
    rw [Block.source, ← eachInside, String.toList_append, String.toList_append, List.append_assoc,
      List.append_assoc, pieces?_tag hinside, pieces?_body hbody, pieces?_tag (by simp),
      Option.map_map, Option.map_map]
    congr 1
    funext pieces
    simp [blockPieces]

/-- The characters of a template without the line feed that ends them. -/
def unended : Plain → List Char
  | [] => []
  | [block] => block.source.toList.dropLast
  | block :: blocks => block.source.toList ++ unended blocks

/-- The last block of a template, whose line feed is taken away. -/
theorem pieces?_lastBlock {block : Block} (h : block.isPlain) :
    pieces? (.outside true) [] (unended [block]) = some (templatePieces [block]) := by
  cases block with
  | line line =>
    have hline : unended [.line line] =
        (String.join (line.places.map fun (front, path) ↦ front ++ path.place)).toList ++
          line.ending.toList := by
      simp [unended, Block.source, Line.source]
    rw [hline]
    exact pieces?_lastLine h
  | each item source body =>
    simp only [Block.isPlain, Bool.and_eq_true] at h
    obtain ⟨⟨hitem, hsource⟩, hbody⟩ := h
    have hend : (Template.tag " endfor ").toList ≠ [] := by
      simp [toList_tag]
    have hinside := percent_notMem_eachInside hitem hsource
    rw [unended, Block.source, ← eachInside, String.toList_append,
      List.dropLast_append_of_ne_nil hend, String.toList_append, List.append_assoc,
      pieces?_tag hinside, pieces?_body hbody, pieces?_lastTag (by simp)]
    simp [templatePieces, blockPieces]

/-- **A plain template is cut into its pieces**, whether it ends in a line or in a loop. -/
theorem pieces?_unended {template : Plain} (h : template.isPlain) :
    pieces? (.outside true) [] (unended template) = some (templatePieces template) := by
  induction template with
  | nil => rfl
  | cons block blocks ih =>
    simp only [Plain.isPlain, List.all_cons, Bool.and_eq_true] at h
    cases blocks with
    | nil => exact pieces?_lastBlock h.1
    | cons next blocks =>
      show pieces? (.outside true) [] (block.source.toList ++ unended (next :: blocks)) = _
      rw [pieces?_block h.1, ih h.2, Option.map_some]
      cases block <;> rfl

end BindingGlue.Interpreter
