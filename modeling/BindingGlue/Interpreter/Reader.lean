import BindingGlue.Interpreter.Spelling
import BindingGlue.Text.Identifier
import BindingGlue.Text.Lines

/-!
# Reading templates

In the text of a template `{{ name }}` and `{{ name.field }}` are places of values,
`{% for item in name %}` and `{% endfor %}` enclose the body of a loop, `{% if name.field %}` and
`{% endif %}` a passage on a condition, which `not` turns round, and `{#` and `#}` a remark. A tag
between `{%` and `%}` and a remark leave no trace of their line: one line feed after them is
dropped, and so are the blanks before them if nothing else stands in front of these on their line.
One line feed at the end of the whole text is dropped too.
-/

namespace BindingGlue.Interpreter

open Template (Fault)
open Text

/-- A stretch of the text of a template. -/
inductive Piece where
  /-- Text outside all braces, up to the end of its line. -/
  | text (text : List Char)
  /-- The inside of a place of a value. -/
  | place (inside : List Char)
  /-- The inside of a tag. -/
  | tag (inside : List Char)

/-- Where a scan of the text of a template stands. -/
inductive Position where
  /-- In text outside all braces, which starts a line or does not. -/
  | outside (startsLine : Bool)
  | inPlace
  | inTag
  | inRemark

/-- The text in front of a tag or a remark, without the blanks that are all there is of it on the
line. -/
def withoutIndent (startsLine : Bool) (text : List Char) : List Char :=
  if startsLine && text.all isBlank then [] else text

/-- Cuts the text of a template into pieces. The second argument holds the characters of the piece
that is being read, the last one first. Nothing comes of a text with an unclosed brace. -/
def pieces? : Position → List Char → List Char → Option (List Piece)
  | .outside _, seen, [] => some [.text seen.reverse]
  | .outside _, seen, '\x7b' :: '\x7b' :: cs => do
    return .text seen.reverse :: (← pieces? .inPlace [] cs)
  | .outside startsLine, seen, '\x7b' :: '%' :: cs => do
    return .text (withoutIndent startsLine seen.reverse) :: (← pieces? .inTag [] cs)
  | .outside startsLine, seen, '\x7b' :: '#' :: cs => do
    return .text (withoutIndent startsLine seen.reverse) :: (← pieces? .inRemark [] cs)
  | .outside _, seen, '\n' :: cs => do
    return .text ('\n' :: seen).reverse :: (← pieces? (.outside true) [] cs)
  | .outside startsLine, seen, c :: cs => pieces? (.outside startsLine) (c :: seen) cs
  | .inPlace, _, [] => none
  | .inPlace, seen, '\x7d' :: '\x7d' :: cs => do
    return .place seen.reverse :: (← pieces? (.outside false) [] cs)
  | .inPlace, seen, c :: cs => pieces? .inPlace (c :: seen) cs
  | .inTag, _, [] => none
  | .inTag, seen, '%' :: '\x7d' :: '\n' :: cs => do
    return .tag seen.reverse :: (← pieces? (.outside true) [] cs)
  | .inTag, seen, '%' :: '\x7d' :: cs => do
    return .tag seen.reverse :: (← pieces? (.outside false) [] cs)
  | .inTag, seen, c :: cs => pieces? .inTag (c :: seen) cs
  | .inRemark, _, [] => none
  | .inRemark, _, '#' :: '\x7d' :: '\n' :: cs => pieces? (.outside true) [] cs
  | .inRemark, _, '#' :: '\x7d' :: cs => pieces? (.outside false) [] cs
  | .inRemark, _, _ :: cs => pieces? .inRemark [] cs

/-- The names and dots of a text in order, if nothing but blanks stands between them. The first
argument holds the characters of the name that is being read, the last one first. -/
def tokens? : List Char → List Char → Option (List String)
  | [], [] => some []
  | seen, [] => some [String.ofList seen.reverse]
  | seen, c :: cs =>
    if isIdentifierChar c then tokens? (c :: seen) cs
    else if isBlank c || c = '.' then do
      let rest ← tokens? [] cs
      let rest := if c = '.' then "." :: rest else rest
      return if seen.isEmpty then rest else String.ofList seen.reverse :: rest
    else none

/-- Whether the token is a name. -/
def isName (token : String) : Bool :=
  match token.toList with
  | [] => false
  | c :: _ => isIdentifierStart c

/-- The fields that tokens write, each after a dot. -/
def fields? : List String → Option (List String)
  | [] => some []
  | "." :: field :: rest => do
    guard (isName field)
    return field :: (← fields? rest)
  | _ => none

/-- The path that tokens write. The word `not` begins no path. -/
def path? : List String → Option Path
  | [] => none
  | name :: rest => do
    guard (isName name && name != "not")
    return { name, fields := ← fields? rest }

/-- Whether a loop can give the name to its items: constants and the name that a loop gives itself
are not to be had. -/
def isBindable (name : String) : Bool :=
  isName name && !isConstant name && name != loopName

/-- What a tag says. -/
inductive Tag where
  | openEach (item : String) (source : Path)
  | closeEach
  | openGuarded (expected : Bool) (condition : Path)
  | closeGuarded

/-- The tag that tokens write. -/
def tag? : List String → Option Tag
  | "for" :: item :: "in" :: source => do
    guard (isBindable item)
    return .openEach item (← path? source)
  | ["endfor"] => some .closeEach
  | "if" :: "not" :: condition => do return .openGuarded false (← path? condition)
  | "if" :: condition => do return .openGuarded true (← path? condition)
  | ["endif"] => some .closeGuarded
  | _ => none

/-- A construct that is open, with the parts before it, the last one first. -/
inductive Open where
  | each (item : String) (source : Path) (before : List Node)
  | guarded (expected : Bool) (condition : Path) (before : List Node)

/-- Builds the parts of a template from its pieces. The first two arguments are the open constructs,
the innermost first, and the parts read inside the innermost one, the last one first. -/
def nodes? : List Open → List Node → List Piece → Option (List Node)
  | [], parts, [] => some parts.reverse
  | _ :: _, _, [] => none
  | opens, parts, .text s :: rest =>
    nodes? opens (if s.isEmpty then parts else .text (String.ofList s) :: parts) rest
  | opens, parts, .place inside :: rest => do
    let path ← path? (← tokens? [] inside)
    nodes? opens (.value path :: parts) rest
  | opens, parts, .tag inside :: rest => do
    match ← tag? (← tokens? [] inside), opens with
    | .openEach item source, opens => nodes? (.each item source parts :: opens) [] rest
    | .openGuarded expected condition, opens =>
      nodes? (.guarded expected condition parts :: opens) [] rest
    | .closeEach, .each item source before :: opens =>
      nodes? opens (.each item source parts.reverse :: before) rest
    | .closeGuarded, .guarded expected condition before :: opens =>
      nodes? opens (.guarded expected condition parts.reverse :: before) rest
    | _, _ => none

/-- The text with line feeds for all ends of lines, without one at its end. -/
def sourceText (s : List Char) : List Char :=
  let s := unixNewlines s
  match s.reverse with
  | '\n' :: rest => rest.reverse
  | _ => s

/-- Reads the text of a template. -/
def read (source : String) : Except Fault (List Node) :=
  match (pieces? (.outside true) [] (sourceText source.toList)).bind (nodes? [] []) with
  | some nodes =>
    if fitAll maxLoops maxConstructs nodes then .ok (spelled nodes) else .error .tooDeep
  | none => .error .malformed

end BindingGlue.Interpreter
