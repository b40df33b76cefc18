import Mathlib.Data.List.Forall2
import BindingGlue.Batch.Report
import BindingGlue.Interpreter.Engine
import BindingGlue.Proofs.Batch.Header
import BindingGlue.Proofs.Text.Lines

/-!
# Runs of batches

A run is a fold of one step over the lines behind the header (`runLines_eq_foldlM`), and what the
fold does is decided by the first line that is not accepted. The lines in front of it are accepted
with their fragments (`Accepts`), and by then the output holds these fragments and nothing else
(`Output.Holds`), which is the invariant that every step keeps (`Output.Holds.add`). From there the
run ends with the outcome of that line, whatever comes after it (`run_eq_of_refused`,
`run_eq_of_fault`).

An output has a list for each kind of fragment, and only the mode says which of them are filled:
every line of one batch has the same kinds of fragments.
-/

namespace BindingGlue

open Text

variable {generator : Generator} {header : Header} {output : Output} {className line : String}
  {mode : Mode} {lines : List String} {fragment : Fragments} {fragments : List Fragments}

/-! ### What an output holds -/

/-- An output for the header that holds exactly these fragments, in their order. -/
structure Output.Holds (output : Output) (header : Header) (fragments : List Fragments) :
    Prop where
  className_eq : output.className = header.className
  mode_eq : output.mode = header.mode
  declarations_eq : output.declarations = fragments.filterMap (·.declaration)
  registrations_eq : output.registrations = fragments.filterMap (·.registration)
  nativeBodies_eq : output.nativeBodies = fragments.filterMap (·.nativeBody)
  typed_eq : output.typed = fragments.map (·.typed)

theorem Output.holds_nil (header : Header) :
    Output.Holds { className := header.className, mode := header.mode } header [] :=
  ⟨rfl, rfl, rfl, rfl, rfl, rfl⟩

/-- Adding fragments keeps what is held and adds them at the end. -/
theorem Output.Holds.add (h : output.Holds header fragments) (fragment : Fragments) :
    (output.add fragment).Holds header (fragments ++ [fragment]) where
  className_eq := h.className_eq
  mode_eq := h.mode_eq
  declarations_eq := by
    rw [List.filterMap_append, ← h.declarations_eq]
    cases hd : fragment.declaration <;> simp [Output.add, hd]
  registrations_eq := by
    rw [List.filterMap_append, ← h.registrations_eq]
    cases hr : fragment.registration <;> simp [Output.add, hr]
  nativeBodies_eq := by
    rw [List.filterMap_append, ← h.nativeBodies_eq]
    cases hb : fragment.nativeBody <;> simp [Output.add, hb]
  typed_eq := by simp [Output.add, h.typed_eq]

theorem Output.Holds.methodCount_eq (h : output.Holds header fragments) :
    output.methodCount = fragments.length := by
  simp [Output.methodCount, h.typed_eq]

/-- Every text of an output is a part of fragments that it holds. -/
theorem Output.Holds.exists_of_mem (h : output.Holds header fragments) :
    (∀ text ∈ output.declarations, ∃ held ∈ fragments, held.declaration = some text) ∧
      (∀ text ∈ output.registrations, ∃ held ∈ fragments, held.registration = some text) ∧
      (∀ text ∈ output.nativeBodies, ∃ held ∈ fragments, held.nativeBody = some text) ∧
      ∀ text ∈ output.typed, ∃ held ∈ fragments, held.typed = text := by
  rw [h.declarations_eq, h.registrations_eq, h.nativeBodies_eq, h.typed_eq]
  exact ⟨fun _ ↦ List.mem_filterMap.1, fun _ ↦ List.mem_filterMap.1, fun _ ↦ List.mem_filterMap.1,
    fun _ ↦ List.mem_map.1⟩

/-! ### What a line gives -/

namespace Generator

/-- A line is accepted exactly if it is a signature that has fragments. -/
theorem generate_eq_ok_iff :
    generator.generate className mode line = .ok (.ok fragment) ↔
      ∃ signature, Signature.read generator.catalogue line = .ok signature ∧
        generator.fragments className mode signature = .ok fragment := by
  rw [generate, expand]
  cases hread : Signature.read generator.catalogue line with
  | error refusal => simp [Except.mapError, bind, Except.bind, answered]
  | ok signature =>
    simp only [Except.mapError, bind, Except.bind, Except.ok.injEq, exists_eq_left']
    cases hfragments : generator.fragments className mode signature with
    | error failure => cases failure <;> simp [answered]
    | ok _ => simp [answered]

theorem fragments_operation_eq_ok_iff {signature : Signature} :
    generator.fragments className .operation signature = .ok fragment ↔
      ∃ nativeBody typed, Native.body generator className signature = .ok nativeBody ∧
        Typed.method generator signature = .ok typed ∧
        fragment = {
          typed
          declaration := some (Native.declaration signature)
          registration := some (Native.registration generator.options className signature)
          nativeBody := some nativeBody } := by
  rw [fragments, operationFragments]
  cases hbody : Native.body generator className signature with
  | error fault => simp [Except.mapError, bind, Except.bind]
  | ok nativeBody =>
    cases hmethod : Typed.method generator signature with
    | error fault => simp [Except.mapError, bind, Except.bind]
    | ok typed => simp [Except.mapError, bind, Except.bind, pure, Except.pure, eq_comm]

theorem fragments_property_eq_ok_iff {signature : Signature} :
    generator.fragments className .property signature = .ok fragment ↔
      ∃ typed, Typed.property generator.options signature = .ok typed ∧ fragment = { typed } := by
  rw [fragments]
  cases Typed.property generator.options signature with
  | error failure => simp [Except.map]
  | ok typed => simp [Except.map, eq_comm]

/-- In operation mode a line has all four fragments. -/
theorem isSome_of_generate_operation
    (h : generator.generate className .operation line = .ok (.ok fragment)) :
    fragment.declaration.isSome ∧ fragment.registration.isSome ∧ fragment.nativeBody.isSome := by
  obtain ⟨signature, -, hfragments⟩ := generate_eq_ok_iff.1 h
  obtain ⟨nativeBody, typed, -, -, rfl⟩ := fragments_operation_eq_ok_iff.1 hfragments
  exact ⟨rfl, rfl, rfl⟩

/-- In property mode a line has its typed fragment alone. -/
theorem eq_none_of_generate_property
    (h : generator.generate className .property line = .ok (.ok fragment)) :
    fragment.declaration = none ∧ fragment.registration = none ∧ fragment.nativeBody = none := by
  obtain ⟨signature, -, hfragments⟩ := generate_eq_ok_iff.1 h
  obtain ⟨typed, -, rfl⟩ := fragments_property_eq_ok_iff.1 hfragments
  exact ⟨rfl, rfl, rfl⟩

/-! ### Accepted lines -/

/-- Lines that are all accepted, with their fragments in order. -/
def Accepts (generator : Generator) (header : Header) (lines : List String)
    (fragments : List Fragments) : Prop :=
  List.Forall₂
    (fun line fragment ↦
      generator.generate header.className header.mode line = .ok (.ok fragment))
    lines fragments

/-- Every fragment of accepted lines is what one of them gave. -/
theorem Accepts.exists_of_mem (h : generator.Accepts header lines fragments)
    (hmem : fragment ∈ fragments) :
    ∃ line ∈ lines, generator.generate header.className header.mode line = .ok (.ok fragment) := by
  induction h with
  | nil => cases hmem
  | @cons line first lines fragments hline _ ih =>
    rcases List.mem_cons.1 hmem with rfl | hmem
    · exact ⟨line, List.mem_cons_self, hline⟩
    · obtain ⟨line, hline⟩ := ih hmem
      exact ⟨line, List.mem_cons_of_mem _ hline.1, hline.2⟩

theorem Accepts.length_filterMap_of_operation (h : generator.Accepts header lines fragments)
    (hmode : header.mode = .operation) :
    (fragments.filterMap (·.declaration)).length = lines.length ∧
      (fragments.filterMap (·.registration)).length = lines.length ∧
      (fragments.filterMap (·.nativeBody)).length = lines.length := by
  induction h with
  | nil => exact ⟨rfl, rfl, rfl⟩
  | cons hline _ ih =>
    rw [hmode] at hline
    obtain ⟨hd, hr, hb⟩ := isSome_of_generate_operation hline
    obtain ⟨⟨d, hd⟩, ⟨r, hr⟩, ⟨b, hb⟩⟩ :=
      And.intro (Option.isSome_iff_exists.1 hd) (And.intro (Option.isSome_iff_exists.1 hr)
        (Option.isSome_iff_exists.1 hb))
    simpa [hd, hr, hb] using ih

theorem Accepts.filterMap_eq_nil_of_property (h : generator.Accepts header lines fragments)
    (hmode : header.mode = .property) :
    fragments.filterMap (·.declaration) = [] ∧ fragments.filterMap (·.registration) = [] ∧
      fragments.filterMap (·.nativeBody) = [] := by
  induction h with
  | nil => exact ⟨rfl, rfl, rfl⟩
  | cons hline _ ih =>
    rw [hmode] at hline
    obtain ⟨hd, hr, hb⟩ := eq_none_of_generate_property hline
    simpa [hd, hr, hb] using ih

/-- Either all lines are accepted, or one of them is the first that is not. -/
theorem accepts_or_exists_first (generator : Generator) (header : Header) (lines : List String) :
    (∃ fragments, generator.Accepts header lines fragments) ∨
      ∃ before line after fragments, lines = before ++ line :: after ∧
        generator.Accepts header before fragments ∧
        ∀ fragment, generator.generate header.className header.mode line ≠ .ok (.ok fragment) := by
  induction lines with
  | nil => exact .inl ⟨[], .nil⟩
  | cons line lines ih =>
    by_cases hline : ∃ fragment,
        generator.generate header.className header.mode line = .ok (.ok fragment)
    · obtain ⟨fragment, hline⟩ := hline
      -- this line is accepted, so the first one that is not is that of the lines after it
      rcases ih with ⟨fragments, h⟩ | ⟨before, culprit, after, fragments, rfl, h, hculprit⟩
      · exact .inl ⟨fragment :: fragments, .cons hline h⟩
      · exact .inr ⟨line :: before, culprit, after, fragment :: fragments, rfl, .cons hline h,
          hculprit⟩
    · exact .inr ⟨[], line, lines, [], rfl, .nil, fun fragment h ↦ hline ⟨fragment, h⟩⟩

/-! ### One step -/

theorem runLines_cons_of_accepted
    (h : generator.generate output.className output.mode line = .ok (.ok fragment)) :
    generator.runLines output (line :: lines) =
      generator.runLines (output.add fragment) lines := by
  rw [runLines, h]
  rfl

theorem runLines_cons_of_refused {diagnostic : Diagnostic}
    (h : generator.generate output.className output.mode line = .ok (.error diagnostic)) :
    generator.runLines output (line :: lines) = .ok (.error diagnostic) := by
  rw [runLines, h]
  rfl

theorem runLines_cons_of_fault {fault : Fault}
    (h : generator.generate output.className output.mode line = .error fault) :
    generator.runLines output (line :: lines) = .error fault := by
  rw [runLines, h]
  rfl

/-! ### Runs as folds -/

/-- The output of a batch before its first line. -/
def emptyOutput (header : Header) : Output :=
  { className := header.className, mode := header.mode }

/-- One line of a run. An answer that is a diagnostic stays. -/
def step (generator : Generator) (header : Header) (answer : Except Diagnostic Output)
    (line : String) : Except Fault (Except Diagnostic Output) :=
  match answer with
  | .error diagnostic => .ok (.error diagnostic)
  | .ok output => do
    match ← generator.generate header.className header.mode line with
    | .ok fragments => return .ok (output.add fragments)
    | .error diagnostic => return .error diagnostic

@[simp]
theorem foldlM_step_error (diagnostic : Diagnostic) (lines : List String) :
    lines.foldlM (generator.step header) (.error diagnostic) = .ok (.error diagnostic) := by
  induction lines with
  | nil => rfl
  | cons line lines ih => simpa [step, bind, Except.bind] using ih

theorem foldlM_step_cons_of_accepted {answer : Output}
    (h : generator.generate header.className header.mode line = .ok (.ok fragment)) :
    (line :: lines).foldlM (generator.step header) (.ok answer) =
      lines.foldlM (generator.step header) (.ok (answer.add fragment)) := by
  simp [step, h, bind, Except.bind, pure, Except.pure]

theorem foldlM_step_cons_of_refused {answer : Output} {diagnostic : Diagnostic}
    (h : generator.generate header.className header.mode line = .ok (.error diagnostic)) :
    (line :: lines).foldlM (generator.step header) (.ok answer) = .ok (.error diagnostic) := by
  rw [List.foldlM_cons]
  simp only [step, h, bind, Except.bind, pure, Except.pure]
  exact foldlM_step_error diagnostic lines

theorem foldlM_step_cons_of_fault {answer : Output} {fault : Fault}
    (h : generator.generate header.className header.mode line = .error fault) :
    (line :: lines).foldlM (generator.step header) (.ok answer) = .error fault := by
  simp [step, h, bind, Except.bind]

/-- The loop over the lines is the fold of its step, as the output keeps the class and the mode. -/
theorem runLines_eq_foldlM (hclass : output.className = header.className)
    (hmode : output.mode = header.mode) (lines : List String) :
    generator.runLines output lines = lines.foldlM (generator.step header) (.ok output) := by
  -- the loop reads the class and the mode off the output, which no line changes
  induction lines generalizing output with
  | nil => rfl
  | cons line lines ih =>
    have hgenerate : generator.generate output.className output.mode line =
        generator.generate header.className header.mode line := by
      rw [hclass, hmode]
    rcases hline : generator.generate header.className header.mode line with
      fault | diagnostic | fragment
    · rw [runLines_cons_of_fault (hgenerate.trans hline), foldlM_step_cons_of_fault hline]
    · rw [runLines_cons_of_refused (hgenerate.trans hline), foldlM_step_cons_of_refused hline]
    · rw [runLines_cons_of_accepted (hgenerate.trans hline), foldlM_step_cons_of_accepted hline]
      exact ih hclass hmode

/-- Accepted lines in front leave an output that holds their fragments behind those it held. -/
theorem Accepts.foldlM_append (h : generator.Accepts header lines fragments)
    {held : List Fragments} (hheld : output.Holds header held) (rest : List String) :
    ∃ output', output'.Holds header (held ++ fragments) ∧
      (lines ++ rest).foldlM (generator.step header) (.ok output) =
        rest.foldlM (generator.step header) (.ok output') := by
  induction h generalizing output held with
  | nil => exact ⟨output, by simpa using hheld, rfl⟩
  | @cons line fragment lines fragments hline _ ih =>
    -- the other lines start from an output that holds this fragment too
    obtain ⟨output', hholds, hrun⟩ := ih (hheld.add fragment)
    refine ⟨output', by simpa using hholds, ?_⟩
    rw [List.cons_append, foldlM_step_cons_of_accepted hline, hrun]

/-! ### Runs -/

variable {text first : String} {before after : List String}

/-- The first line is read as no header unless it fits one. -/
theorem read?_first_eq_none (hlines : contentLines text = first :: lines)
    (h : ∀ header : Header, ¬ header.Fits first.toList) : Header.read? first = none := by
  rw [Option.eq_none_iff_forall_ne_some]
  intro header hread
  refine h header ((Header.read?_eq_some_iff fun run c hc ↦ ?_).1 hread)
  exact isBlank_eq_false_of_mem_contentLines (hlines ▸ List.mem_cons_self) hc

theorem read?_first_eq_some (hlines : contentLines text = first :: lines)
    (hheader : header.Fits first.toList) : Header.read? first = some header :=
  (Header.read?_eq_some_iff fun _ _ hc ↦
    isBlank_eq_false_of_mem_contentLines (hlines ▸ List.mem_cons_self) hc).2 hheader

/-- The lines behind the header are folded over the empty output. -/
theorem run_eq_foldlM (hlines : contentLines text = first :: lines)
    (hheader : header.Fits first.toList) :
    generator.run text = lines.foldlM (generator.step header) (.ok (emptyOutput header)) := by
  rw [run, hlines]
  simp only [read?_first_eq_some hlines hheader]
  exact runLines_eq_foldlM rfl rfl lines

/-- The first line that is refused gives the answer, whatever comes after it. -/
theorem run_eq_of_refused {diagnostic : Diagnostic}
    (hlines : contentLines text = first :: (before ++ line :: after))
    (hheader : header.Fits first.toList) (hbefore : generator.Accepts header before fragments)
    (hline : generator.generate header.className header.mode line = .ok (.error diagnostic)) :
    generator.run text = .ok (.error diagnostic) := by
  obtain ⟨output, -, hrun⟩ := hbefore.foldlM_append (Output.holds_nil header) (line :: after)
  rw [run_eq_foldlM hlines hheader, emptyOutput, hrun, foldlM_step_cons_of_refused hline]

/-- The first line with a fault ends the run with it, whatever comes after it. -/
theorem run_eq_of_fault {fault : Fault}
    (hlines : contentLines text = first :: (before ++ line :: after))
    (hheader : header.Fits first.toList) (hbefore : generator.Accepts header before fragments)
    (hline : generator.generate header.className header.mode line = .error fault) :
    generator.run text = .error fault := by
  obtain ⟨output, -, hrun⟩ := hbefore.foldlM_append (Output.holds_nil header) (line :: after)
  rw [run_eq_foldlM hlines hheader, emptyOutput, hrun, foldlM_step_cons_of_fault hline]

/-- If all lines are accepted, the answer holds their fragments. -/
theorem exists_run_eq_of_accepts (hlines : contentLines text = first :: lines)
    (hheader : header.Fits first.toList) (haccepts : generator.Accepts header lines fragments) :
    ∃ output, generator.run text = .ok (.ok output) ∧ output.Holds header fragments := by
  obtain ⟨output, hholds, hrun⟩ := haccepts.foldlM_append (Output.holds_nil header) []
  rw [List.append_nil] at hrun
  exact ⟨output, by rw [run_eq_foldlM hlines hheader, emptyOutput, hrun]; rfl, hholds⟩

/-- A run with an output accepted every line behind its header, and the output holds what they
gave. -/
theorem exists_accepts_of_run (hrun : generator.run text = .ok (.ok output)) :
    ∃ header lines fragments, Signature.IsName header.className.toList ∧
      generator.Accepts header lines fragments ∧ output.Holds header fragments := by
  rcases hlines : contentLines text with _ | ⟨first, lines⟩
  · rw [run, hlines] at hrun
    cases hrun
  rcases hread : Header.read? first with _ | header
  · simp only [run, hlines, hread] at hrun
    cases hrun
  have hheader : header.Fits first.toList :=
    (Header.read?_eq_some_iff fun run c hc ↦
      isBlank_eq_false_of_mem_contentLines (hlines ▸ List.mem_cons_self) hc).1 hread
  obtain ⟨_, _, -, -, -, hname⟩ := id hheader
  rcases accepts_or_exists_first generator header lines with
    ⟨fragments, haccepts⟩ | ⟨before, line, after, fragments, rfl, hbefore, hline⟩
  · obtain ⟨output', hrun', hholds⟩ := exists_run_eq_of_accepts hlines hheader haccepts
    obtain rfl : output = output' := Except.ok.inj (Except.ok.inj (hrun.symm.trans hrun'))
    exact ⟨header, lines, fragments, hname, haccepts, hholds⟩
  · -- the first line that is not accepted would have been the end of the run
    rcases houtcome : generator.generate header.className header.mode line with
      fault | diagnostic | fragment
    · rw [run_eq_of_fault hlines hheader hbefore houtcome] at hrun
      cases hrun
    · rw [run_eq_of_refused hlines hheader hbefore houtcome] at hrun
      cases hrun
    · exact absurd houtcome (hline fragment)

/-- The lengths of the four lists of an output that holds the fragments of accepted lines. -/
theorem Accepts.lengths (h : generator.Accepts header lines fragments)
    (hholds : output.Holds header fragments) :
    output.lists.map List.length =
      match header.mode with
      | .operation => [lines.length, lines.length, lines.length, lines.length]
      | .property => [0, 0, 0, lines.length] := by
  have htyped : output.typed.length = lines.length := by
    rw [hholds.typed_eq, List.length_map, h.length_eq]
  simp only [Output.lists, List.map_cons, List.map_nil, htyped, hholds.declarations_eq,
    hholds.registrations_eq, hholds.nativeBodies_eq]
  cases hmode : header.mode with
  | operation =>
    obtain ⟨hd, hr, hb⟩ := h.length_filterMap_of_operation hmode
    rw [hd, hr, hb]
  | property =>
    obtain ⟨hd, hr, hb⟩ := h.filterMap_eq_nil_of_property hmode
    rw [hd, hr, hb]
    rfl

/-- **What a run does**, on every text and for every generator. Without a line that counts it
answers that there is no input, and on a first line that fits no header, that the header is missing.
Otherwise it is the fold of `step` over the further lines.

The first line that is not accepted then decides everything: the answer is its own diagnostic, or
the run ends with its fault, on this text and on every other one that agrees with it up to that
line. If there is no such line, the answer holds the fragments of all lines, in their order: four
lists of the same length in operation mode, the typed fragments alone in property mode. One of the
two is the case. -/
theorem run_exact (generator : Generator) (text : Option String) :
    (contentLines (text.getD "") = [] →
      generator.run (text.getD "") = .ok (.error Refusal.noInput.diagnostic)) ∧
    ∀ first lines, contentLines (text.getD "") = first :: lines →
      ((∀ header : Header, ¬ header.Fits first.toList) →
        generator.run (text.getD "") = .ok (.error (Refusal.missingHeader first).diagnostic)) ∧
      ∀ header : Header, header.Fits first.toList →
        generator.run (text.getD "") =
          lines.foldlM (generator.step header) (.ok (emptyOutput header)) ∧
        (∀ before line after fragments, lines = before ++ line :: after →
          generator.Accepts header before fragments →
          ∀ other after', contentLines other = first :: (before ++ line :: after') →
            (∀ diagnostic,
              generator.generate header.className header.mode line = .ok (.error diagnostic) →
              generator.run other = .ok (.error diagnostic)) ∧
            ∀ fault, generator.generate header.className header.mode line = .error fault →
              generator.run other = .error fault) ∧
        (∀ fragments, generator.Accepts header lines fragments →
          ∃ output, generator.run (text.getD "") = .ok (.ok output) ∧
            output.Holds header fragments ∧ output.methodCount = lines.length ∧
            output.lists.map List.length =
              match header.mode with
              | .operation => [lines.length, lines.length, lines.length, lines.length]
              | .property => [0, 0, 0, lines.length]) ∧
        ((∃ fragments, generator.Accepts header lines fragments) ∨
          ∃ before line after fragments, lines = before ++ line :: after ∧
            generator.Accepts header before fragments ∧
            ∀ fragment,
              generator.generate header.className header.mode line ≠ .ok (.ok fragment)) := by
  refine ⟨fun hlines ↦ by rw [run, hlines], fun first lines hlines ↦
    ⟨fun hnone ↦ ?_, fun header hheader ↦ ⟨run_eq_foldlM hlines hheader, ?_, ?_,
      accepts_or_exists_first generator header lines⟩⟩⟩
  · rw [run, hlines]
    simp only [read?_first_eq_none hlines hnone]
  · intro before line after fragments _ hbefore other after' hother
    exact ⟨fun _ ↦ run_eq_of_refused hother hheader hbefore,
      fun _ ↦ run_eq_of_fault hother hheader hbefore⟩
  · intro fragments haccepts
    obtain ⟨output, hrun, hholds⟩ := exists_run_eq_of_accepts hlines hheader haccepts
    exact ⟨output, hrun, hholds, by rw [hholds.methodCount_eq, ← haccepts.length_eq],
      haccepts.lengths hholds⟩

/-- What was accepted before the refused line is dropped, and what comes after it does not count. -/
theorem run_exact_refused :
    run { engine := Interpreter.engine }
        "// PROP: QLabel\n// TODO: void setIndent(int indent);\nindent\n// TODO: int indent();" =
      .ok (.error (Refusal.grammarMismatch .shape "indent").diagnostic) := by
  have hlines : contentLines
      "// PROP: QLabel\n// TODO: void setIndent(int indent);\nindent\n// TODO: int indent();" =
        "// PROP: QLabel" :: (["// TODO: void setIndent(int indent);"] ++ "indent" ::
          ["// TODO: int indent();"]) := by
    rw [contentLines, String.toList_ofList]
    rfl
  have hblank : Signature.IsBlanks [' '] := by
    intro c hc
    obtain rfl := List.mem_singleton.1 hc
    decide
  have hheader : Header.Fits ⟨.property, "QLabel"⟩ "// PROP: QLabel".toList := by
    refine ⟨[' '], [' '], by simp [Mode.keyword], hblank, hblank, ?_⟩
    rw [String.toList_ofList]
    exact ⟨'Q', _, rfl, rfl, by simp [isWord]⟩
  have hbefore : Accepts { engine := Interpreter.engine } ⟨.property, "QLabel"⟩
      ["// TODO: void setIndent(int indent);"] [_] :=
    .cons (by rfl) .nil
  have hrefused : generate { engine := Interpreter.engine } "QLabel" .property "indent" =
      .ok (.error (Refusal.grammarMismatch .shape "indent").diagnostic) := by
    rfl
  exact ((((run_exact _ (some _)).2 _ _ hlines).2 _ hheader).2.1 _ _ _ _ rfl hbefore _ _
    hlines).1 _ hrefused

end Generator

end BindingGlue
