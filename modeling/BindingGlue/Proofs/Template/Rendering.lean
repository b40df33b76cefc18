import BindingGlue.Proofs.Template.Standard

/-!
# What the standard template of a native body writes

The template writes one fixed layout, whatever values it is filled with (`render_nativeBody`): the
native body is the lines of `nativeBodyLines`, if all of its names have values that can be written,
and the fault of the first one that has none otherwise. This holds of every engine that does what
the documentation says, and rests on what the language says of each line and each loop in turn.
-/

namespace BindingGlue.Template

variable {α β : Type} {values : List (String × Value)} {name : String}

/-! ### Outcomes -/

/-- Where the language says that there is an outcome. -/
def Meaning.of (outcome : Except Fault α) : Meaning α :=
  ExceptT.mk (some outcome)

/-- A plain template is filled in as the language says. -/
theorem DocumentedEngine.render_eq (engine : DocumentedEngine) {shelf : Shelf} {template : Plain}
    {outcome : Except Fault String} (hsource : source shelf name = .ok template.text)
    (hplain : template.isPlain) (hself : values.lookup selfName = none)
    (hfill : template.fill values = Meaning.of outcome) :
    engine.render shelf name values = outcome :=
  engine.isDocumented.render_plain shelf name template values outcome hsource hplain hself
    (congrArg ExceptT.run hfill)

/-- What is given under a name, without which the name has no value. -/
def given (name : String) : Option α → Except Fault α
  | some a => .ok a
  | none => .error (.undefinedName name)

theorem value_name (values : List (String × Value)) (name : String) :
    Path.value values { name } = Meaning.of (given name (values.lookup name)) := by
  rw [Path.value]
  cases values.lookup name <;> rfl

/-- The texts of the turns, joined. A text may depend on whether its turn is the last one. -/
def joined (out : α → Bool → String) : List α → String
  | [] => ""
  | a :: rest => out a rest.isEmpty ++ joined out rest

theorem joined_map (f : β → α) (out : α → Bool → String) (xs : List β) :
    joined out (xs.map f) = joined (fun x ↦ out (f x)) xs := by
  induction xs with
  | nil => rfl
  | cons x xs ih => rw [List.map_cons, joined, joined, List.isEmpty_map, ih]

/-- A loop in whose turns the same is written of each item, but for whether it is the last. -/
theorem turns_map {item : String} {body : List Passage} {f : α → Value} {out : α → Bool → String}
    {xs : List α} (h : ∀ x ∈ xs, ∀ isLast,
      Meaning.joined (body.map (Passage.fill ((item, f x) :: values) isLast)) =
        return out x isLast) :
    turns values item body (xs.map f) = return joined out xs := by
  induction xs with
  | nil => rfl
  | cons x xs ih =>
    rw [List.forall_mem_cons] at h
    rw [List.map_cons, turns, h.1, ih h.2, List.isEmpty_map]
    rfl

/-! ### Native bodies -/

/-- The lines that a native body opens with, below an empty one: the head of the member, and the
refusal of a call with another number of arguments. -/
def openingLines (wrapper name argc : String) : List String := [
  "",
  "Napi::Value " ++ wrapper ++ "::" ++ name ++ "(const Napi::CallbackInfo& info) \x7b",
  "  Napi::Env env = info.Env();",
  "  Napi::HandleScope scope(env);",
  "",
  "  if (info.Length() != " ++ argc ++ ") \x7b",
  "    Napi::TypeError::New(env, \"Wrong number of arguments\")",
  "        .ThrowAsJavaScriptException();",
  "    return env.Null();",
  "  \x7d"]

/-- The lines of a native body. -/
def nativeBodyLines (wrapper name argc : String) (extraction : List String) (invocation : String)
    (packing : List String) : List String :=
  openingLines wrapper name argc ++ extraction.map ("  " ++ ·) ++ ["  " ++ invocation] ++
    packing.map ("  " ++ ·) ++ ["\x7d"]

/-- The text of a line in its loop. -/
def lineText (line : String) (_ : Bool) : String :=
  "  " ++ line ++ "\n"

theorem joined_lineText_append (lines : List String) {rest : List String} (hrest : rest ≠ []) :
    joined lineText lines ++ "\n".intercalate rest =
      "\n".intercalate (lines.map ("  " ++ ·) ++ rest) := by
  induction lines with
  | nil => simp [joined]
  | cons line lines ih =>
    rw [List.map_cons, List.cons_append, String.intercalate_cons_of_ne_nil (by simp [hrest]), ← ih]
    simp [joined, lineText, String.append_assoc]

/-- A loop over lines writes each of them after two spaces, on a line of its own. -/
theorem turns_lines (lines : List String) :
    turns values "line" indentedLine (lines.map .text) = return joined lineText lines := by
  refine turns_map fun line _ isLast ↦ ?_
  show (return "  " ++ line ++ "" ++ "" ++ "\n" ++ "" : Meaning String) = _
  simp [lineText]

/-- The text of a native body, laid out in lines. -/
theorem intercalate_nativeBodyLines (wrapper name argc : String) (extraction : List String)
    (invocation : String) (packing : List String) :
    "\n".intercalate (nativeBodyLines wrapper name argc extraction invocation packing) =
      "\n".intercalate (openingLines wrapper name argc) ++ "\n" ++ (joined lineText extraction ++
        ("  " ++ invocation ++ "\n" ++ (joined lineText packing ++ "\x7d"))) := by
  have hpacking : joined lineText packing ++ "\x7d" =
      "\n".intercalate (packing.map ("  " ++ ·) ++ ["\x7d"]) := by
    rw [← joined_lineText_append packing (by simp)]
    simp
  have hinvocation : "  " ++ invocation ++ "\n" ++ (joined lineText packing ++ "\x7d") =
      "\n".intercalate (("  " ++ invocation) :: (packing.map ("  " ++ ·) ++ ["\x7d"])) := by
    rw [String.intercalate_cons_of_ne_nil (by simp), hpacking]
  rw [hinvocation, joined_lineText_append extraction (by simp), nativeBodyLines, openingLines]
  simp only [List.append_assoc, List.cons_append, List.nil_append]
  obtain ⟨line, lines, hlines⟩ : ∃ line lines, extraction.map ("  " ++ ·) ++
      ("  " ++ invocation) :: (packing.map ("  " ++ ·) ++ ["\x7d"]) = line :: lines :=
    List.exists_cons_of_ne_nil (by simp)
  rw [hlines]
  simp only [String.intercalate_cons_cons, String.intercalate_singleton, String.append_assoc]

/-- A number of arguments that may be given: a text, any number, or the number of items of a list.
-/
inductive Argc where
  | text (text : String)
  | number (number : Int)
  | count (count : Nat)

/-- The value that is given. -/
def Argc.value : Argc → Value
  | text s => .text s
  | number n => .number n
  | count n => .count n

/-- How it is written. A number that is too long cannot be. -/
def Argc.written : Argc → Except Fault String
  | text s => .ok s
  | number n => if Text.isShort n then .ok (Text.decimal n) else .error .longNumber
  | count n => .ok n.repr

theorem Argc.written_value (argc : Argc) : argc.value.written = Meaning.of argc.written := by
  cases argc with
  | text s => rfl
  | count n => rfl
  | number n =>
    rw [value, written, Value.written]
    split <;> rfl

/-- Values for the template of a native body: each of its names is given a value of its type or
none, in any order and among any others. -/
structure NativeBodyContext where
  /-- The values by name. -/
  values : List (String × Value)
  /-- The class that the member belongs to. -/
  wrapper : Option String
  /-- The name of the member. -/
  name : Option String
  /-- The number of arguments. -/
  argc : Option Argc
  /-- The lines that read the arguments. -/
  extraction : Option (List String)
  /-- The line of the call. -/
  invocation : Option String
  /-- The lines that return the result. -/
  packing : Option (List String)
  selfName_eq : values.lookup selfName = none
  wrapper_eq : values.lookup "wrapper" = wrapper.map .text
  name_eq : values.lookup "name" = name.map .text
  argc_eq : values.lookup "argc" = argc.map Argc.value
  extraction_eq : values.lookup "extraction" = extraction.map fun lines ↦ .list (lines.map .text)
  invocation_eq : values.lookup "invocation" = invocation.map .text
  packing_eq : values.lookup "packing" = packing.map fun lines ↦ .list (lines.map .text)

/-- The values of a native body, under each name one. -/
def NativeBodyContext.ofValues (wrapper name : String) (argc : Argc) (extraction : List String)
    (invocation : String) (packing : List String) : NativeBodyContext where
  values := [
    ("wrapper", .text wrapper),
    ("name", .text name),
    ("argc", argc.value),
    ("extraction", .list (extraction.map .text)),
    ("invocation", .text invocation),
    ("packing", .list (packing.map .text))]
  wrapper := some wrapper
  name := some name
  argc := some argc
  extraction := some extraction
  invocation := some invocation
  packing := some packing
  selfName_eq := rfl
  wrapper_eq := rfl
  name_eq := rfl
  argc_eq := rfl
  extraction_eq := rfl
  invocation_eq := rfl
  packing_eq := rfl

/-- The place of a name whose value is written somehow, with the text in front of it. -/
theorem fillPlace_of_written {toValue : α → Value} {written : α → Except Fault String}
    {given? : Option α} (hvalue : values.lookup name = given?.map toValue)
    (hwritten : ∀ a, (toValue a).written = Meaning.of (written a)) (front : String) :
    fillPlace values (front, { name }) =
      Meaning.of (((given name given?).bind written).map (front ++ ·)) := by
  rw [fillPlace, value_name, hvalue]
  cases given? with
  | none => rfl
  | some a =>
    show (do return front ++ (← (toValue a).written)) = _
    rw [hwritten]
    show _ = Meaning.of ((written a).map (front ++ ·))
    cases written a <;> rfl

theorem fillPlace_text {text? : Option String} (hvalue : values.lookup name = text?.map .text)
    (front : String) :
    fillPlace values (front, { name }) = Meaning.of ((given name text?).map (front ++ ·)) := by
  have hwritten : ∀ text, (Value.text text).written = Meaning.of (.ok text) := fun _ ↦ rfl
  rw [fillPlace_of_written hvalue hwritten]
  cases text? <;> rfl

/-- A loop over the lines that are given under a name. -/
theorem fill_lines {lines? : Option (List String)}
    (hvalue : values.lookup name = lines?.map fun lines ↦ .list (lines.map .text)) :
    Block.fill values (.each "line" name indentedLine) =
      Meaning.of ((given name lines?).map (joined lineText)) := by
  rw [Block.fill, value_name, hvalue]
  cases lines? with
  | none => rfl
  | some lines => exact turns_lines lines

/-- How the number of arguments is written, if it is given. -/
def NativeBodyContext.argcText (context : NativeBodyContext) : Except Fault String :=
  (given "argc" context.argc).bind Argc.written

/-- What the language says of the template of a native body. -/
theorem fill_nativeBody (context : NativeBodyContext) :
    nativeBody.fill context.values = Meaning.of (do
      let wrapper ← given "wrapper" context.wrapper
      let name ← given "name" context.name
      let argc ← context.argcText
      let extraction ← given "extraction" context.extraction
      let invocation ← given "invocation" context.invocation
      let packing ← given "packing" context.packing
      return "\n".intercalate
        (nativeBodyLines wrapper name argc extraction invocation packing)) := by
  have hline : ∀ parts, Block.fill context.values (.line parts) =
      Line.fillWhole context.values parts := fun _ ↦ rfl
  have hargc : fillPlace context.values ("  if (info.Length() != ", { name := "argc" }) =
      Meaning.of (context.argcText.map ("  if (info.Length() != " ++ ·)) :=
    fillPlace_of_written context.argc_eq Argc.written_value _
  simp only [nativeBody, Plain.fill, hline, Line.fillWhole, Line.fill, List.map_cons,
    List.map_nil, Meaning.joined, fillPlace_text context.wrapper_eq, fillPlace_text context.name_eq,
    hargc, fill_lines context.extraction_eq, fillPlace_text context.invocation_eq,
    fill_lines context.packing_eq]
  -- the first name without a value decides, whatever was written up to its place
  rcases context.wrapper with _ | wrapper
  · rfl
  rcases context.name with _ | name
  · rfl
  rcases context.argcText with _ | argc
  · rfl
  rcases context.extraction with _ | extraction
  · rfl
  rcases context.invocation with _ | invocation
  · rfl
  rcases context.packing with _ | packing
  · rfl
  refine congrArg (fun text ↦ Meaning.of (Except.ok text)) ?_
  rw [intercalate_nativeBodyLines]
  simp only [openingLines, String.intercalate_cons_cons, String.intercalate_singleton,
    String.append_assoc, String.empty_append, String.append_empty]

/-- **What a native body is**: its lines, each once and in their order, if every name of the
template is given a value, and otherwise the fault of the first name that is not. -/
theorem render_nativeBody (engine : DocumentedEngine) (context : NativeBodyContext) :
    engine.render [] "native_body.cpp.j2" context.values = do
      let wrapper ← given "wrapper" context.wrapper
      let name ← given "name" context.name
      let argc ← context.argcText
      let extraction ← given "extraction" context.extraction
      let invocation ← given "invocation" context.invocation
      let packing ← given "packing" context.packing
      return "\n".intercalate (nativeBodyLines wrapper name argc extraction invocation packing) :=
  engine.render_eq source_nativeBody isPlain_nativeBody context.selfName_eq
    (fill_nativeBody context)

end BindingGlue.Template
