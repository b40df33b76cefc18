import BindingGlue.Interpreter.Engine
import BindingGlue.Proofs.Interpreter.Loop
import BindingGlue.Proofs.Interpreter.Reading

/-!
# The interpreter does what the documentation says

The interpreter fills a plain template in as the language says, wherever the language says something
(`isDocumented_engine`): the parts of a line, a passage and a block follow the meanings of these
(`Follows`), and keep what the loops under way are known to be. Outside of all loops that is that
there are none, and in the turn of a loop it is which items are still to come. The values that a
plain template can reach are those that it was given (`Scope.Holds`): no plain name is that of a
value that every template has.
-/

namespace BindingGlue.Interpreter

open Template (Fault Line Passage Block Plain Meaning isPlainName reservedNames)

variable {α β : Type} {inv : Loops → Prop} {scope : Scope} {values : List (String × Template.Value)}
  {loops around : Loops} {nodes nodes' : List Node} {name item : String}

/-! ### Following a meaning -/

/-- Where the meaning says something, the filling does that, and what is known of the loops under
way stays true. -/
def Follows (inv : Loops → Prop) (filling : Filling α) (meaning : Meaning α) : Prop :=
  ∀ loops, inv loops → ∀ outcome, meaning.run = some outcome →
    ∃ loops', inv loops' ∧ filling.run loops = outcome.map (·, loops')

namespace Follows

theorem pure (a : α) : Follows inv (pure a) (pure a) := by
  rintro loops h _ ⟨⟩
  exact ⟨loops, h, rfl⟩

theorem throw (fault : Fault) : Follows inv (throw fault : Filling α) (throw fault) := by
  rintro loops h _ ⟨⟩
  exact ⟨loops, h, rfl⟩

/-- Where the language says nothing, anything may be done. -/
theorem silent (filling : Filling α) : Follows inv filling Meaning.silent := by
  rintro loops h _ ⟨⟩

theorem bind {filling : Filling α} {meaning : Meaning α} {f : α → Filling β} {g : α → Meaning β}
    (h : Follows inv filling meaning) (hf : ∀ a, Follows inv (f a) (g a)) :
    Follows inv (filling >>= f) (meaning >>= g) := by
  intro loops hloops outcome houtcome
  rw [ExceptT.run_bind] at houtcome
  obtain ⟨first, hfirst, houtcome⟩ := Option.bind_eq_some_iff.1 houtcome
  obtain ⟨loops', hloops', hrun⟩ := h loops hloops first hfirst
  cases first with
  | error fault =>
    obtain rfl := Option.some.inj houtcome
    exact ⟨loops, hloops, Filling.run_bind_of_error f hrun⟩
  | ok a =>
    rw [Filling.run_bind_of_ok f hrun]
    exact hf a loops' hloops' outcome houtcome

/-- Texts that are joined. -/
theorem append {filling filling' : Filling String} {meaning meaning' : Meaning String}
    (h : Follows inv filling meaning) (h' : Follows inv filling' meaning') :
    Follows inv (do return (← filling) ++ (← filling')) (do return (← meaning) ++ (← meaning')) :=
  h.bind fun _ ↦ h'.bind fun _ ↦ pure _

end Follows

/-! ### Values -/

theorem lookup_givenFields (values : List (String × Template.Value)) (name : String) :
    (Value.givenFields values).lookup name = (values.lookup name).map Value.given := by
  induction values with
  | nil => rfl
  | cons value values ih =>
    rw [Value.givenFields, List.lookup_cons, List.lookup_cons, ih]
    split <;> rfl

theorem givenItems_eq_map (items : List Template.Value) :
    Value.givenItems items = items.map Value.given := by
  induction items with
  | nil => rfl
  | cons item items ih => rw [Value.givenItems, ih, List.map_cons]

theorem follows_write (value : Template.Value) :
    Follows inv (Filling.write (Value.given value)) value.written := by
  cases value with
  | text s => exact Follows.pure s
  | count n => exact Follows.pure n.repr
  | list _ => exact Follows.silent _
  | object _ => exact Follows.silent _
  | number n =>
    rw [Value.given, Template.Value.written]
    split
    · exact Follows.pure (Text.decimal n)
    · exact Follows.throw .longNumber

/-- The plain names have the given values, and no others. -/
def Scope.Holds (scope : Scope) (values : List (String × Template.Value)) : Prop :=
  ∀ name, isPlainName reservedNames name → scope.start { name } =
    ((values.lookup name).map Value.given).getD (.undefined (.undefinedName name))

/-- A field of an object that is given: it is no member of every object. -/
theorem run_field_object {fields : List (String × Template.Value)} {field : String}
    (h : isPlainName Template.reservedFields field) :
    (Filling.field (Value.given (.object fields)) field).run loops =
      .ok (((fields.lookup field).map Value.given).getD
        (.undefined (.undefinedField "dict object" field)), loops) := by
  have hclass : field ≠ "__class__" := by
    rintro rfl
    revert h
    decide
  have hmethod : Template.reservedFields.contains field = false := by
    simpa using fun hmem ↦ ne_of_isPlainName h hmem rfl
  have hmember : (Value.given (.object fields)).member? loops.shown field = none := by
    simp only [Value.given, Value.member?, Value.kindName, Value.methodNames, if_neg hclass,
      hmethod, Bool.false_eq_true, if_false]
  have hpart : (Filling.part? (Value.given (.object fields)) field).run loops = .ok (none, loops) :=
    rfl
  have huse : (Filling.use (Value.given (.object fields))).run loops = .ok (⟨⟩, loops) := rfl
  have hentry : (Value.given (.object fields)).item? field =
      (fields.lookup field).map Value.given :=
    lookup_givenFields fields field
  rw [Filling.field, Filling.run_bind_of_ok _ huse, Filling.run_bind_of_ok _ hpart,
    Filling.run_get_bind, hmember, hentry]
  cases fields.lookup field <;> rfl

theorem run_find_name (hscope : scope.Holds values) (h : isPlainName reservedNames name) :
    (scope.find { name }).run loops = .ok
      (((values.lookup name).map Value.given).getD (.undefined (.undefinedName name)), loops) := by
  rw [← hscope name h]
  rfl

theorem run_find_field {field : String} (hscope : scope.Holds values)
    (h : isPlainName reservedNames name) :
    (scope.find { name, fields := [field] }).run loops = (Filling.field
      (((values.lookup name).map Value.given).getD (.undefined (.undefinedName name)))
        field).run loops := by
  rw [← hscope name h]
  show ((Filling.field (scope.start { name }) field) >>= pure : Filling Value).run loops = _
  rw [bind_pure]

/-- The place of a name. -/
theorem follows_name (hscope : scope.Holds values) (h : isPlainName reservedNames name) :
    Follows inv (scope.find { name } >>= Filling.write)
      (do (← Template.Path.value values { name }).written) := by
  intro loops hloops outcome houtcome
  rw [Filling.run_bind_of_ok _ (run_find_name hscope h)]
  rw [Template.Path.value] at houtcome
  cases hlookup : values.lookup name with
  | none =>
    rw [hlookup] at houtcome
    obtain rfl := Option.some.inj houtcome
    exact ⟨loops, hloops, rfl⟩
  | some value =>
    rw [hlookup] at houtcome
    exact follows_write value loops hloops outcome houtcome

/-- The place of a field. -/
theorem follows_field {field : String} (hscope : scope.Holds values)
    (h : isPlainName reservedNames name) (hfield : isPlainName Template.reservedFields field) :
    Follows inv (scope.find { name, fields := [field] } >>= Filling.write)
      (do (← Template.Path.value values { name, field? := some field }).written) := by
  intro loops hloops outcome houtcome
  rw [StateT.run_bind, run_find_field hscope h]
  rw [Template.Path.value] at houtcome
  cases hlookup : values.lookup name with
  | none =>
    rw [hlookup] at houtcome
    obtain rfl := Option.some.inj houtcome
    exact ⟨loops, hloops, rfl⟩
  | some value =>
    rw [hlookup] at houtcome
    cases value with
    | text _ | number _ | count _ | list _ => cases houtcome
    | object fields =>
      rw [Option.map_some, Option.getD_some, run_field_object hfield]
      cases hfields : fields.lookup field with
      | none =>
        simp only [hfields] at houtcome
        obtain rfl := Option.some.inj houtcome
        exact ⟨loops, hloops, rfl⟩
      | some value =>
        simp only [hfields] at houtcome
        exact follows_write value loops hloops outcome houtcome

theorem follows_path {path : Template.Path} (hscope : scope.Holds values) (h : path.isPlain) :
    Follows inv ((Node.value (readPath path)).render scope)
      (do (← path.value values).written) := by
  obtain ⟨name, field?⟩ := path
  rw [Template.Path.isPlain, Bool.and_eq_true] at h
  rw [Node.render]
  cases field? with
  | none => exact follows_name hscope h.1
  | some field => exact follows_field hscope h.1 h.2

/-! ### Lines -/

theorem renderAll_append : renderAll scope (nodes ++ nodes') =
    (do return (← renderAll scope nodes) ++ (← renderAll scope nodes')) := by
  induction nodes with
  | nil => simp [renderAll, -bind_pure_comp]
  | cons node nodes ih => simp [renderAll, ih, String.append_assoc, -bind_pure_comp]

theorem follows_append {meaning meaning' : Meaning String}
    (h : Follows inv (renderAll scope nodes) meaning)
    (h' : Follows inv (renderAll scope nodes') meaning') :
    Follows inv (renderAll scope (nodes ++ nodes'))
      (do return (← meaning) ++ (← meaning')) := by
  rw [renderAll_append]
  exact h.append h'

theorem follows_flatMap {f : α → List Node} {g : α → Meaning String} {xs : List α}
    (h : ∀ x ∈ xs, Follows inv (renderAll scope (f x)) (g x)) :
    Follows inv (renderAll scope (xs.flatMap f)) (Meaning.joined (xs.map g)) := by
  induction xs with
  | nil => exact Follows.pure ""
  | cons x xs ih =>
    rw [List.forall_mem_cons] at h
    rw [List.flatMap_cons, List.map_cons, Meaning.joined]
    exact follows_append h.1 (ih h.2)

theorem renderAll_singleton (node : Node) : renderAll scope [node] = node.render scope := by
  simp [renderAll]

theorem renderAll_textNodes (text : List Char) :
    renderAll scope (textNodes text) = pure (String.ofList text) := by
  cases text <;> simp [textNodes, renderAll, Node.render]

/-- A line that ends in some characters. -/
theorem follows_line {line : Line} (hscope : scope.Holds values) (h : line.isPlain)
    (feed : List Char) :
    Follows inv (renderAll scope (lineNodes feed line))
      (do return (← line.fill values) ++ String.ofList feed) := by
  simp only [Line.isPlain, Bool.and_eq_true, List.all_eq_true] at h
  have hplaces : ∀ place ∈ line.places,
      Follows inv (renderAll scope (placeNodes place)) (Template.fillPlace values place) := by
    intro place hplace
    have hpath : Follows inv ((Node.value (readPath place.2)).render scope) _ :=
      follows_path hscope (h.1 place hplace).2
    rw [placeNodes, renderAll_append, renderAll_textNodes, renderAll_singleton,
      String.ofList_toList]
    have hmeaning : Template.fillPlace values place =
        (do return (← pure place.1) ++ (← (do (← place.2.value values).written))) := by
      simp [Template.fillPlace, -bind_pure_comp]
    rw [hmeaning]
    exact (Follows.pure place.1).append hpath
  have hmeaning : (do return (← line.fill values) ++ String.ofList feed : Meaning String) =
      (do return (← Meaning.joined (line.places.map (Template.fillPlace values))) ++
        (← pure (String.ofList (line.ending.toList ++ feed)))) := by
    simp [Line.fill, String.append_assoc, -bind_pure_comp]
  rw [hmeaning, lineNodes, renderAll_append, renderAll_textNodes]
  exact (follows_flatMap hplaces).append (Follows.pure _)

theorem follows_lineWhole {line : Line} (hscope : scope.Holds values) (h : line.isPlain) :
    Follows inv (renderAll scope (lineNodes ['\n'] line)) (line.fillWhole values) :=
  follows_line hscope h ['\n']

theorem follows_lastLine {line : Line} (hscope : scope.Holds values) (h : line.isPlain) :
    Follows inv (renderAll scope (lineNodes [] line)) (line.fill values) := by
  have hline : Follows inv (renderAll scope (lineNodes [] line)) _ := follows_line hscope h []
  simpa using hline

/-! ### Loops -/

/-- The innermost loop is inside these, and still has these items to come. -/
def Turning (around : Loops) (rest : List Value) (loops : Loops) : Prop :=
  ∃ loop, Loop.Remains loop rest ∧ loops = around ++ [loop]

/-- The innermost loop, which is inside these, is known to the scope under its own name. -/
def Scope.Knows (scope : Scope) (around : Loops) : Prop :=
  scope.start lastPath = .loop around.length

theorem follows_passage {passage : Passage} {rest : List Value} (hscope : scope.Holds values)
    (hloop : scope.Knows around) (h : passage.isPlain) :
    Follows (Turning around rest) (renderAll scope (passageNodes passage))
      (passage.fill values rest.isEmpty) := by
  cases passage with
  | line line => exact follows_lineWhole hscope h
  | unlessLast lines =>
    rw [Passage.isPlain, List.all_eq_true] at h
    have hlines : Follows (Turning around rest) _ _ :=
      follows_flatMap fun line hline ↦ follows_lineWhole hscope (h line hline)
    rintro loops ⟨loop, hremains, rfl⟩ outcome houtcome
    obtain ⟨loop', hremains', hlast⟩ := Filling.exists_last_of_remains around hremains
    have hfind : (scope.find lastPath).run (around ++ [loop]) =
        .ok (.truth rest.isEmpty, around ++ [loop']) := by
      rw [← hlast]
      show (Filling.field (scope.start lastPath) "last" >>= pure : Filling Value).run _ = _
      rw [bind_pure, hloop]
    have hholds : (Filling.holds (.truth rest.isEmpty)).run (around ++ [loop']) =
        .ok (rest.isEmpty, around ++ [loop']) := rfl
    rw [passageNodes, renderAll_singleton, Node.render, Filling.run_bind_of_ok _ hfind,
      Filling.run_bind_of_ok _ hholds]
    rw [Passage.fill] at houtcome
    cases hempty : rest.isEmpty with
    | true =>
      rw [hempty] at houtcome
      obtain rfl := Option.some.inj houtcome
      exact ⟨_, ⟨loop', hremains', rfl⟩, rfl⟩
    | false =>
      rw [hempty] at houtcome
      exact hlines _ ⟨loop', hremains', rfl⟩ outcome houtcome

theorem holds_turn (hscope : scope.Holds values) (value : Template.Value) (depth : Nat) :
    (scope.turn item depth (Value.given value)).Holds ((item, value) :: values) := by
  intro name hname
  have hloop : (name == loopName) = false := by
    simpa using ne_of_isPlainName hname (by decide)
  have hstart := hscope name hname
  rw [Scope.start, lookup_constants_of_isPlainName hname] at hstart ⊢
  simp only [Scope.turn, List.lookup_cons, hloop, Bool.false_eq_true, if_false, Option.none_or]
    at hstart ⊢
  by_cases heq : name == item
  · simp [heq]
  · simpa [heq] using hstart

theorem knows_turn (hitem : isPlainName reservedNames item) (value : Value) :
    (scope.turn item around.length value).Knows around := by
  have hloop : ("loop" == item) = false := by
    simpa using (ne_of_isPlainName hitem (by decide)).symm
  have hconstant : constants.lookup "loop" = none := rfl
  rw [Scope.Knows, Scope.start]
  simp [lastPath, hconstant, Scope.turn, List.lookup_cons, hloop, loopName]

/-- The turns of the items to come. -/
theorem exists_turns {body : List Passage} (hscope : scope.Holds values)
    (hitem : isPlainName reservedNames item) (hbody : ∀ passage ∈ body, passage.isPlain)
    (items : List Template.Value) (most : Nat) (hmost : items.length ≤ most)
    (hloops : Turning around (items.map Value.given) loops) {outcome : Except Fault String}
    (houtcome : (Template.turns values item body items).run = some outcome) :
    ∃ loop' : Loop, (scope.turns item around.length
        (fun inner ↦ renderAll inner (body.flatMap passageNodes)) most).run loops =
      outcome.map (·, around ++ [loop']) := by
  induction items generalizing most loops outcome with
  | nil =>
    obtain ⟨loop, hremains, rfl⟩ := hloops
    obtain rfl := Option.some.inj houtcome
    cases most with
    | zero => exact ⟨loop, rfl⟩
    | succ most =>
      refine ⟨loop, ?_⟩
      rw [Scope.turns, Filling.run_bind_of_ok _ (Filling.next_of_remains_nil hremains)]
      rfl
  | cons value items ih =>
    obtain ⟨loop, hremains, rfl⟩ := hloops
    cases most with
    | zero => simp at hmost
    | succ most =>
      obtain ⟨loop₁, hremains₁, hnext⟩ := Filling.exists_next_of_remains around hremains
      have hturn : Follows (Turning around (items.map Value.given)) _ _ :=
        follows_flatMap fun passage hpassage ↦
          follows_passage (holds_turn hscope value around.length) (knows_turn hitem _)
            (hbody passage hpassage)
      rw [List.isEmpty_map] at hturn
      rw [Template.turns, ExceptT.run_bind] at houtcome
      obtain ⟨first, hfirst, houtcome⟩ := Option.bind_eq_some_iff.1 houtcome
      obtain ⟨loops₂, hloops₂, hrun⟩ := hturn _ ⟨loop₁, hremains₁, rfl⟩ first hfirst
      rw [Scope.turns, Filling.run_bind_of_ok _ hnext]
      cases first with
      | error fault =>
        obtain rfl := Option.some.inj houtcome
        exact ⟨loop₁, Filling.run_bind_of_error _ hrun⟩
      | ok text =>
        -- the turns of the rest, behind the text of this one
        change (ExceptT.run (do return text ++ (← Template.turns values item body items))) = _
          at houtcome
        rw [ExceptT.run_bind] at houtcome
        obtain ⟨second, hsecond, houtcome⟩ := Option.bind_eq_some_iff.1 houtcome
        obtain ⟨loop₃, hturns⟩ := ih most (by simpa using hmost) hloops₂ hsecond
        refine ⟨loop₃, ?_⟩
        rw [Filling.run_bind_of_ok _ hrun]
        cases second with
        | error fault =>
          obtain rfl := Option.some.inj houtcome
          exact Filling.run_bind_of_error _ hturns
        | ok texts =>
          obtain rfl := Option.some.inj houtcome
          rw [Filling.run_bind_of_ok _ hturns]
          rfl

/-- A loop over a list leaves the loops around it as they were. -/
theorem follows_list {body : List Passage} (hscope : scope.Holds values)
    (hitem : isPlainName reservedNames item) (hbody : ∀ passage ∈ body, passage.isPlain)
    (items : List Template.Value) :
    Follows (· = around) (scope.each item (Value.given (.list items))
        fun inner ↦ renderAll inner (body.flatMap passageNodes))
      (Template.turns values item body items) := by
  rintro loops rfl outcome houtcome
  let loop : Loop :=
    { supply := .items (items.map Value.given), count := (items.map Value.given).length }
  have hover : Loop.over loops (Value.given (.list items)) = .ok loop := by
    rw [Value.given, givenItems_eq_map]
    rfl
  obtain ⟨loop', hturns⟩ := exists_turns hscope hitem hbody items loop.count (by simp [loop])
    ⟨loop, ⟨_, rfl, rfl⟩, rfl⟩ houtcome
  refine ⟨loops, rfl, ?_⟩
  rw [Scope.each, Filling.run_get_bind, hover, Filling.run_lift_bind, Filling.run_set_bind]
  cases outcome with
  | error fault => exact Filling.run_bind_of_error _ hturns
  | ok text =>
    rw [Filling.run_bind_of_ok _ hturns]
    show Except.ok (text, (loops ++ [loop']).take loops.length) = _
    rw [List.take_left' rfl]
    rfl

theorem follows_block {block : Block} (hscope : scope.Holds values) (h : block.isPlain) :
    Follows (· = around) (renderAll scope (blockNodes block)) (block.fill values) := by
  cases block with
  | line line => exact follows_lineWhole hscope h
  | each item source body =>
    simp only [Block.isPlain, Bool.and_eq_true, List.all_eq_true] at h
    obtain ⟨⟨hitem, hsource⟩, hbody⟩ := h
    rintro loops rfl outcome houtcome
    rw [blockNodes, renderAll_singleton, Node.render,
      Filling.run_bind_of_ok _ (run_find_name hscope hsource)]
    rw [Block.fill, Template.Path.value] at houtcome
    cases hlookup : values.lookup source with
    | none =>
      rw [hlookup] at houtcome
      obtain rfl := Option.some.inj houtcome
      exact ⟨loops, rfl, rfl⟩
    | some value =>
      rw [hlookup] at houtcome
      cases value with
      | text _ | number _ | count _ | object _ => cases houtcome
      | list items => exact follows_list hscope hitem hbody items loops rfl outcome houtcome

theorem follows_template {template : Plain} (hscope : scope.Holds values) (h : template.isPlain) :
    Follows (· = around) (renderAll scope (templateNodes template)) (template.fill values) := by
  induction template with
  | nil => exact Follows.pure ""
  | cons block blocks ih =>
    simp only [Plain.isPlain, List.all_cons, Bool.and_eq_true] at h
    have hbehind : Follows (· = around)
        (renderAll scope (blockNodes block ++ templateNodes blocks)) _ :=
      follows_append (follows_block hscope h.1) (ih h.2)
    cases blocks with
    | cons next blocks => cases block <;> exact hbehind
    | nil =>
      cases block with
      | each item source body => exact hbehind
      | line line => exact follows_lastLine hscope h.1

/-! ### The engine -/

/-- Plain names are not those of values that every template has. -/
theorem lookup_standardValues (h : isPlainName reservedNames name) :
    standardValues.lookup name = none := by
  have hne : ∀ other ∈ reservedNames, name ≠ other := fun other ↦ ne_of_isPlainName h
  rw [List.lookup_eq_none_iff]
  simp only [standardValues, List.forall_mem_cons, List.not_mem_nil, false_imp_iff, implies_true,
    and_true, bne_iff_ne]
  exact ⟨hne _ (by decide), hne _ (by decide), hne _ (by decide), hne _ (by decide),
    hne _ (by decide), hne _ (by decide)⟩

theorem holds_root (values : List (String × Template.Value)) {nodes : List Node}
    (h : allOrdinary nodes) (name : String) :
    ({ root := rootValues name nodes values } : Scope).Holds values := by
  intro name' hname
  rw [Scope.start, lookup_constants_of_isPlainName hname]
  simp [rootValues, knowsItself_of_allOrdinary h, List.lookup_append, lookup_givenFields,
    lookup_standardValues hname]

/-- **The interpreter does what the documentation says.** -/
theorem isDocumented_engine : engine.IsDocumented where
  render_plain shelf name template values outcome hsource hplain hself houtcome := by
    have hscope := holds_root values (allOrdinary_templateNodes hplain) name
    obtain ⟨loops, rfl, hrun⟩ := follows_template hscope hplain [] rfl outcome houtcome
    show render shelf name values = outcome
    rw [render, hsource]
    show (do
      let nodes ← read template.text
      if (values.lookup Template.selfName).isSome then throw (Fault.reservedName Template.selfName)
      (renderAll { root := rootValues name nodes values } nodes).run' []) = _
    rw [read_text hplain, hself]
    show Prod.fst <$> (renderAll _ (templateNodes template)).run [] = _
    rw [hrun]
    cases outcome <;> rfl

/-- The interpreter, as an engine that does what the documentation says. -/
def documented : Template.DocumentedEngine where
  toEngine := engine
  isDocumented := isDocumented_engine

end BindingGlue.Interpreter
