import BindingGlue.Batch.Session
import BindingGlue.Proofs.Batch.Run
import BindingGlue.Proofs.Fragments.Modes

/-!
# The output of a session

A step changes the output in one case only: it generates a line that is accepted and is to be kept.
`Step.addition?` says what is then added, and `output_perform` that nothing else happens to the
output, whether the step answers or fails. Along any sequence of steps the output therefore holds
the additions in their order (`holds_run`), and an output that holds fragments keeps holding them.

Steps of both modes may be mixed in one session. Its native lists then fall behind the typed one,
but all three by the same additions, those in property mode, so what stands at one position of them
is what one line gave.
-/

namespace BindingGlue.Session

open Generator

variable {generator : Generator} {header : Header} {output : Output} {step : Step}
  {steps : List Step} {held : List Fragments}

/-! ### What a step does to the output -/

/-- Fragments that a session keeps, and what they are generated for. -/
structure Addition where
  /-- The class that the method belongs to. -/
  className : String
  /-- What is generated for it. -/
  mode : Mode
  /-- Its line. -/
  line : String
  /-- What the line gives. -/
  fragments : Fragments
  deriving DecidableEq

/-- What a step adds to the output: the fragments of an accepted line, if it is to keep them. -/
def Step.addition? (generator : Generator) : Step → Option Addition
  | .generate className mode line true =>
    match generator.generate className mode line with
    | .ok (.ok fragments) => some { className, mode, line, fragments }
    | _ => none
  | _ => none

theorem Step.addition?_of_accepted {className line : String} {mode : Mode} {fragments : Fragments}
    (h : generator.generate className mode line = .ok (.ok fragments)) :
    (Step.generate className mode line true).addition? generator =
      some { className, mode, line, fragments } := by
  simp only [Step.addition?, h]

theorem Step.addition?_eq_some_iff {addition : Addition} :
    step.addition? generator = some addition ↔
      step = .generate addition.className addition.mode addition.line true ∧
        generator.generate addition.className addition.mode addition.line =
          .ok (.ok addition.fragments) := by
  constructor
  · intro h
    revert h
    fun_cases Step.addition? generator step
    case case1 className mode line fragments hgenerate =>
      rintro ⟨⟩
      exact ⟨rfl, hgenerate⟩
    case case2 => nofun
    case case3 => nofun
  · rintro ⟨rfl, hgenerate⟩
    exact Step.addition?_of_accepted hgenerate

/-- A step that is not to keep what it generates, or that answers no fragments, adds nothing. -/
theorem addition?_eq_none
    (h : (∀ className mode line, step ≠ .generate className mode line true) ∨
      ∀ fragments, ((perform generator step).run.run output).1 ≠ .ok (.fragments fragments)) :
    step.addition? generator = none := by
  rw [Option.eq_none_iff_forall_ne_some]
  intro addition hsome
  -- a step that adds something is one that is to keep it, and it answers it
  obtain ⟨rfl, hgenerate⟩ := Step.addition?_eq_some_iff.1 hsome
  rcases h with h | h
  · exact h _ _ _ rfl
  · refine h addition.fragments ?_
    rw [run_perform_generate, hgenerate]

/-- A step adds its addition to the output, if it has one, and does nothing else to it. -/
theorem output_perform (generator : Generator) (output : Output) (step : Step) :
    ((perform generator step).run.run output).2 =
      (step.addition? generator).elim output fun addition ↦ output.add addition.fragments := by
  cases step with
  | generate className mode line adds =>
    rw [run_perform_generate]
    cases adds <;>
      rcases hgenerate : generator.generate className mode line with
        fault | diagnostic | fragments <;>
      simp [Step.addition?, hgenerate]
  | expand className mode line => rw [run_perform_expand]; rfl
  | report => rw [run_perform_report]; rfl

/-! ### What a session leaves -/

/-- What the steps add to the output, in their order. -/
def additions (generator : Generator) (steps : List Step) : List Addition :=
  steps.filterMap (Step.addition? generator)

/-- What is added is what generating its line gives. -/
theorem generate_of_mem_additions {addition : Addition}
    (h : addition ∈ additions generator steps) :
    generator.generate addition.className addition.mode addition.line =
      .ok (.ok addition.fragments) := by
  obtain ⟨step, -, hstep⟩ := List.mem_filterMap.1 h
  exact (Step.addition?_eq_some_iff.1 hstep).2

/-- Behind a last step the output is what that step makes of the one the others leave. -/
theorem output_run_concat (steps : List Step) (step : Step) (output : Output) :
    ((run generator (steps ++ [step])).run output).2 =
      ((perform generator step).run.run ((run generator steps).run output).2).2 := by
  rw [run, List.mapM_append]
  rfl

theorem additions_concat (steps : List Step) (step : Step) :
    additions generator (steps ++ [step]) =
      additions generator steps ++ (step.addition? generator).toList := by
  rw [additions, List.filterMap_append]
  cases hstep : step.addition? generator <;> simp [additions, hstep]

/-- A step keeps what is held and puts its addition behind it. -/
theorem holds_perform (h : output.Holds header held) (step : Step) :
    ((perform generator step).run.run output).2.Holds header
      (held ++ (step.addition? generator).toList.map Addition.fragments) := by
  rw [output_perform]
  cases step.addition? generator with
  | none => simpa using h
  | some addition => exact h.add addition.fragments

/-- A session keeps what is held and puts its additions behind it. -/
theorem holds_run (h : output.Holds header held) (steps : List Step) :
    ((run generator steps).run output).2.Holds header
      (held ++ (additions generator steps).map Addition.fragments) := by
  -- on the last step, which is performed on the output that the others leave
  induction steps using List.reverseRecOn with
  | nil =>
    rw [additions, List.filterMap_nil, List.map_nil, List.append_nil]
    exact h
  | append_singleton steps step ih =>
    rw [output_run_concat, additions_concat, List.map_append, ← List.append_assoc]
    exact holds_perform ih step

/-! ### The native lists -/

/-- The additions in operation mode, which are those with native fragments. -/
def operations (generator : Generator) (steps : List Step) : List Addition :=
  (additions generator steps).filter (·.mode = .operation)

theorem isSome_of_mem_additions {addition : Addition} (h : addition ∈ additions generator steps) :
    addition.fragments.declaration.isSome = decide (addition.mode = .operation) ∧
      addition.fragments.registration.isSome = decide (addition.mode = .operation) ∧
      addition.fragments.nativeBody.isSome = decide (addition.mode = .operation) := by
  have hgenerate := generate_of_mem_additions h
  cases hmode : addition.mode with
  | operation =>
    obtain ⟨hd, hr, hb⟩ := isSome_of_generate_operation (hmode ▸ hgenerate)
    simp [hd, hr, hb]
  | property =>
    obtain ⟨hd, hr, hb⟩ := eq_none_of_generate_property (hmode ▸ hgenerate)
    simp [hd, hr, hb]

/-- A kind of fragment that there is in operation mode alone: its texts are those of the operations,
position by position. -/
theorem map_some_filterMap_additions {part : Fragments → Option String}
    (hpart : ∀ addition ∈ additions generator steps,
      (part addition.fragments).isSome = decide (addition.mode = .operation)) :
    (((additions generator steps).map Addition.fragments).filterMap part).map some =
      (operations generator steps).map fun addition ↦ part addition.fragments := by
  calc (((additions generator steps).map Addition.fragments).filterMap part).map some
    _ = ((additions generator steps).map fun addition ↦ part addition.fragments).filter
          Option.isSome := by
      rw [List.filterMap_map, List.map_filterMap_some_eq_filter_map_isSome]
      rfl
    _ = ((additions generator steps).filter fun addition ↦ (part addition.fragments).isSome).map
          fun addition ↦ part addition.fragments := by
      rw [List.filter_map]
      rfl
    _ = (operations generator steps).map fun addition ↦ part addition.fragments := by
      rw [operations, List.filter_congr hpart]

/-- What stands at a position of a list that another list gives text by text. -/
theorem getElem?_of_map_some {α : Type} {texts : List String} {l : List α}
    {f : α → Option String} (h : texts.map some = l.map f) {j : ℕ} (hj : j < l.length) :
    texts[j]? = f l[j] := by
  have hj' : texts[j]?.map some = some (f l[j]) := by
    rw [← List.getElem?_map, h, List.getElem?_map, List.getElem?_eq_getElem hj, Option.map_some]
  obtain ⟨text, htext, hf⟩ := Option.map_eq_some_iff.1 hj'
  rw [htext, hf]

/-- The output that a session leaves if there was nothing in it at first. -/
def outputAfter (generator : Generator) (className : String) (mode : Mode) (steps : List Step) :
    Output :=
  ((run generator steps).run { className, mode }).2

theorem holds_outputAfter (generator : Generator) (className : String) (mode : Mode)
    (steps : List Step) :
    (outputAfter generator className mode steps).Holds ⟨mode, className⟩
      ((additions generator steps).map Addition.fragments) :=
  holds_run (Output.holds_nil ⟨mode, className⟩) steps

/-- The native lists hold the native fragments of the operations, position by position. -/
theorem map_some_outputAfter (generator : Generator) (className : String) (mode : Mode)
    (steps : List Step) :
    (outputAfter generator className mode steps).declarations.map some =
        (operations generator steps).map (·.fragments.declaration) ∧
      (outputAfter generator className mode steps).registrations.map some =
        (operations generator steps).map (·.fragments.registration) ∧
      (outputAfter generator className mode steps).nativeBodies.map some =
        (operations generator steps).map (·.fragments.nativeBody) := by
  have hholds := holds_outputAfter generator className mode steps
  rw [hholds.declarations_eq, hholds.registrations_eq, hholds.nativeBodies_eq]
  exact ⟨map_some_filterMap_additions fun _ h ↦ (isSome_of_mem_additions h).1,
    map_some_filterMap_additions fun _ h ↦ (isSome_of_mem_additions h).2.1,
    map_some_filterMap_additions fun _ h ↦ (isSome_of_mem_additions h).2.2⟩

/-- An operation is a line that is read, and its native fragments are those of its signature. -/
theorem exists_signature_of_mem_operations {addition : Addition}
    (h : addition ∈ operations generator steps) :
    ∃ signature nativeBody,
      Signature.read generator.catalogue addition.line = .ok signature ∧
      Native.body generator addition.className signature = .ok nativeBody ∧
      addition.fragments.declaration = some (Native.declaration signature) ∧
      addition.fragments.registration =
        some (Native.registration generator.options addition.className signature) ∧
      addition.fragments.nativeBody = some nativeBody := by
  obtain ⟨hmem, hmode⟩ := List.mem_filter.1 h
  have hgenerate := generate_of_mem_additions hmem
  rw [of_decide_eq_true hmode] at hgenerate
  obtain ⟨signature, hread, hfragments⟩ := generate_eq_ok_iff.1 hgenerate
  obtain ⟨nativeBody, typed, hbody, -, hparts⟩ := fragments_operation_eq_ok_iff.1 hfragments
  exact ⟨signature, nativeBody, hread, hbody, by simp [hparts]⟩

/-- **What a session leaves**, for every generator and after any steps on an output that was empty
at first. There are as many methods as additions. The native lists have one text each for the
additions in operation mode, and the three at one position are those of one signature, which is read
off the line of that addition. A further step that is not to keep what it generates, or that answers
no fragments, leaves the output as it is: an expansion, a report, a refusal or a failure. -/
theorem output_aligned (generator : Generator) (className : String) (mode : Mode)
    (steps : List Step) :
    (outputAfter generator className mode steps).lists.map List.length =
        [(operations generator steps).length, (operations generator steps).length,
          (operations generator steps).length, (additions generator steps).length] ∧
    (outputAfter generator className mode steps).methodCount = (additions generator steps).length ∧
    (operations generator steps).length ≤ (additions generator steps).length ∧
    (outputAfter generator className mode steps).typed =
      (additions generator steps).map (·.fragments.typed) ∧
    (∀ (j : ℕ) (hj : j < (operations generator steps).length), ∃ signature nativeBody,
      Signature.read generator.catalogue (operations generator steps)[j].line = .ok signature ∧
      Native.body generator (operations generator steps)[j].className signature = .ok nativeBody ∧
      (outputAfter generator className mode steps).declarations[j]? =
        some (Native.declaration signature) ∧
      (outputAfter generator className mode steps).registrations[j]? =
        some (Native.registration generator.options (operations generator steps)[j].className
          signature) ∧
      (outputAfter generator className mode steps).nativeBodies[j]? = some nativeBody) ∧
    ∀ step, ((∀ className mode line, step ≠ .generate className mode line true) ∨
        ∀ fragments, ((perform generator step).run.run
          (outputAfter generator className mode steps)).1 ≠ .ok (.fragments fragments)) →
      outputAfter generator className mode (steps ++ [step]) =
        outputAfter generator className mode steps := by
  have hholds := holds_outputAfter generator className mode steps
  obtain ⟨hd, hr, hb⟩ := map_some_outputAfter generator className mode steps
  have hcount := hholds.methodCount_eq
  rw [List.length_map] at hcount
  refine ⟨?_, hcount, List.length_filter_le .., ?_, fun j hj ↦ ?_, fun step hstep ↦ ?_⟩
  · have hlength : ∀ {texts : List String} {f : Addition → Option String},
        texts.map some = (operations generator steps).map f →
          texts.length = (operations generator steps).length := by
      intro texts f h
      simpa using congrArg List.length h
    simp only [Output.lists, List.map_cons, List.map_nil, hlength hd, hlength hr, hlength hb]
    rw [← hcount, Output.methodCount]
  · rw [hholds.typed_eq, List.map_map]
    rfl
  · obtain ⟨signature, nativeBody, hread, hbody, hdeclaration, hregistration, hnativeBody⟩ :=
      exists_signature_of_mem_operations (List.getElem_mem hj)
    refine ⟨signature, nativeBody, hread, hbody, ?_, ?_, ?_⟩
    · rw [getElem?_of_map_some hd hj, hdeclaration]
    · rw [getElem?_of_map_some hr hj, hregistration]
    · rw [getElem?_of_map_some hb hj, hnativeBody]
  · rw [outputAfter, output_run_concat, output_perform, addition?_eq_none hstep]
    rfl

/-- Lines of both modes that are kept, and steps between them that keep nothing. -/
def mixedSteps : List Step :=
  [.generate "QLabel" .operation "// TODO: void setIndent(int indent)" true,
    .generate "QLabel" .property "// TODO: void setIndent(int indent)" true,
    .generate "QLabel" .operation "indent" true,
    .expand "QLabel" .operation "// TODO: QList<QRect> rects()",
    .report,
    .generate "QLabel" .operation "// TODO: QList<QRect> rects()" true]

/-- Both modes in one session, with a refused line, an expansion and a report between them: the
second native texts are those of the third line that is kept. -/
theorem output_aligned_mixed :
    (outputAfter (.standard Interpreter.documented) "QLabel" .operation mixedSteps).lists.map
        List.length = [2, 2, 2, 3] ∧
    (outputAfter (.standard Interpreter.documented) "QLabel" .operation
        mixedSteps).declarations[1]? =
      some "  Napi::Value rects(const Napi::CallbackInfo& info);" ∧
    outputAfter (.standard Interpreter.documented) "QLabel" .operation
        (mixedSteps ++ [.generate "QLabel" .property "indent" true]) =
      outputAfter (.standard Interpreter.documented) "QLabel" .operation mixedSteps := by
  have hread : Signature.read (catalogue (.standard Interpreter.documented))
      "// TODO: void setIndent(int indent)" = .ok {
      name := "setIndent"
      resultType := Vocabulary.void
      arguments := [{ type := Vocabulary.signed "int", name := "indent" }]
      line := "// TODO: void setIndent(int indent)" } := by
    rfl
  have hreadList : Signature.read (catalogue (.standard Interpreter.documented))
      "// TODO: QList<QRect> rects()" = .ok {
      name := "rects"
      resultType := Vocabulary.objectList "QList<QRect>" (Vocabulary.valueObject "QRect")
      line := "// TODO: QList<QRect> rects()" } := by
    rfl
  obtain ⟨setter, hsetter⟩ := exists_generate_operation "QLabel" hread
  obtain ⟨accessor, haccessor⟩ : ∃ accessor,
      generate (.standard Interpreter.documented) "QLabel" .property
        "// TODO: void setIndent(int indent)" = .ok (.ok accessor) :=
    ⟨_, rfl⟩
  have hrefused (mode : Mode) : generate (.standard Interpreter.documented) "QLabel" mode "indent" =
      .ok (.error (Refusal.grammarMismatch .shape "indent").diagnostic) := by
    cases mode <;> rfl
  obtain ⟨rects, hrects⟩ := exists_generate_operation "QLabel" hreadList
  have hadditions : additions (.standard Interpreter.documented) mixedSteps =
      [⟨"QLabel", .operation, "// TODO: void setIndent(int indent)", setter⟩,
        ⟨"QLabel", .property, "// TODO: void setIndent(int indent)", accessor⟩,
        ⟨"QLabel", .operation, "// TODO: QList<QRect> rects()", rects⟩] := by
    have hnone : Step.addition? (.standard Interpreter.documented)
        (.generate "QLabel" .operation "indent" true) = none := by
      simp only [Step.addition?, hrefused]
    rw [additions, mixedSteps, List.filterMap_cons_some (Step.addition?_of_accepted hsetter),
      List.filterMap_cons_some (Step.addition?_of_accepted haccessor),
      List.filterMap_cons_none hnone, List.filterMap_cons_none rfl, List.filterMap_cons_none rfl,
      List.filterMap_cons_some (Step.addition?_of_accepted hrects), List.filterMap_nil]
  have hoperations : operations (.standard Interpreter.documented) mixedSteps =
      [⟨"QLabel", .operation, "// TODO: void setIndent(int indent)", setter⟩,
        ⟨"QLabel", .operation, "// TODO: QList<QRect> rects()", rects⟩] := by
    simp [operations, hadditions]
  obtain ⟨hlengths, -, -, -, haligned, hunchanged⟩ :=
    output_aligned (.standard Interpreter.documented) "QLabel" .operation mixedSteps
  refine ⟨?_, ?_, ?_⟩
  · rw [hlengths, hoperations, hadditions]
    rfl
  · obtain ⟨signature, -, hsecond, -, hdeclaration, -⟩ :=
      haligned 1 (by simp [hoperations])
    simp only [hoperations] at hsecond
    obtain rfl := Except.ok.inj (hreadList.symm.trans hsecond)
    exact hdeclaration
  · refine hunchanged _ (.inr fun fragments ↦ ?_)
    rw [run_perform_generate, hrefused]
    nofun

end BindingGlue.Session
