import BindingGlue.Fragments.Native
import BindingGlue.Proofs.Generator

/-!
# Native bodies with the standard templates

With the standard templates a body is its extraction lines, its invocation and its packing lines in
one fixed layout (`Native.body_eq_ok`). The extraction lines are there for arguments that have
values.
-/

namespace BindingGlue

variable {generator : Generator} {className : String} {signature : Signature}
  {argument : Argument} {arguments : List Argument} {lines : List String}

namespace Native

/-- An argument with values has extraction lines. -/
theorem exists_extraction_eq_ok (h : argument.type.category ≠ .void) (index : Nat) :
    ∃ lines, extraction argument index = .ok lines := by
  cases hcategory : argument.type.category with
  | void => exact absurd hcategory h
  | boolean | signedInteger | unsignedInteger | floatingPoint | string | enumeration | object =>
    simp only [extraction, hcategory]
    exact ⟨_, rfl⟩

/-- The extraction lines of an argument and of those behind it. -/
theorem extractions_cons_eq_ok_iff {index : Nat} :
    extractions index (argument :: arguments) = .ok lines ↔
      ∃ first others, extraction argument index = .ok first ∧
        extractions (index + 1) arguments = .ok others ∧ first ++ others = lines := by
  rw [extractions]
  cases extraction argument index with
  | error fault => simp [bind, Except.bind]
  | ok first =>
    cases extractions (index + 1) arguments with
    | error fault => simp [bind, Except.bind]
    | ok others => simp [bind, Except.bind, pure, Except.pure]

theorem exists_extractions_eq_ok (h : ∀ argument ∈ arguments, argument.type.category ≠ .void)
    (index : Nat) : ∃ lines, extractions index arguments = .ok lines := by
  induction arguments generalizing index with
  | nil => exact ⟨[], rfl⟩
  | cons argument arguments ih =>
    obtain ⟨lines, hlines⟩ := exists_extraction_eq_ok (h argument List.mem_cons_self) index
    obtain ⟨others, hothers⟩ := ih (fun other hother ↦ h other (List.mem_cons_of_mem _ hother))
      (index + 1)
    exact ⟨lines ++ others, extractions_cons_eq_ok_iff.2 ⟨lines, others, hlines, hothers, rfl⟩⟩

/-- What holds of the lines of each argument holds of all extraction lines. -/
theorem forall_mem_extractions {p : String → Prop} (hp : ∀ argument ∈ arguments, ∀ index lines,
      extraction argument index = .ok lines → ∀ line ∈ lines, p line)
    {index : Nat} (h : extractions index arguments = .ok lines) : ∀ line ∈ lines, p line := by
  induction arguments generalizing index lines with
  | nil =>
    obtain rfl := Except.ok.inj h
    simp
  | cons argument arguments ih =>
    rw [List.forall_mem_cons] at hp
    obtain ⟨first, others, hfirst, hothers, rfl⟩ := extractions_cons_eq_ok_iff.1 h
    rw [List.forall_mem_append]
    exact ⟨hp.1 index first hfirst, ih hp.2 hothers⟩

/-- The entry of a method in the table, spelled out. -/
theorem registration_standard (className : String) (signature : Signature) :
    registration {} className signature =
      "    InstanceMethod(\"" ++ signature.name ++ "\", &" ++ className ++ "Wrap::" ++
        signature.name ++ ")," := by
  show "    InstanceMethod(\"" ++ signature.name ++ "\", &" ++ (className ++ "Wrap") ++ "::" ++
    signature.name ++ ")," = _
  simp [String.append_assoc]

/-- The body of a method, once its lines are known. -/
theorem body_eq_ok (htemplates : generator.UsesStandardTemplates) {extraction packing : List String}
    (hextraction : extractions 0 signature.arguments = .ok extraction)
    (hpacking : Native.packing generator signature.resultType = .ok packing) :
    body generator className signature =
      .ok ("\n".intercalate (Template.nativeBodyLines (generator.options.wrapperName className)
        signature.name signature.arguments.length.repr extraction
        (invocation generator.options signature) packing)) := by
  let context := Template.NativeBodyContext.ofValues (generator.options.wrapperName className)
    signature.name (.count signature.arguments.length) extraction
    (invocation generator.options signature) packing
  have hvalues : bodyValues generator className signature = .ok context.values := by
    rw [bodyValues, hextraction, hpacking]
    rfl
  rw [body, hvalues]
  show generator.fillTemplate generator.options.nativeBodyTemplate context.values = _
  rw [Generator.fillTemplate, htemplates.shelf_eq, htemplates.nativeBodyTemplate_eq]
  show (htemplates.engine.render [] "native_body.cpp.j2" context.values).mapError
    Fault.template = _
  rw [Template.render_nativeBody]
  rfl

end Native

end BindingGlue
