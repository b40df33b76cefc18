import BindingGlue.Fragments.Typed
import BindingGlue.Interpreter.Engine
import BindingGlue.Proofs.Naming

/-!
# Typed names that meet

Two methods of one class meet on the typed surface if their typed names are the same: the later
method takes the place of the earlier one. Names that both lose the prefix never meet, because the
upper-case characters of ASCII differ in lower case too, and names that both keep themselves do not
meet either. So what meets is a name that loses the prefix and the name that is left of it
(`Naming.StripsTo`), provided that the prefix does not mark what is left: with the prefix `gl` the
method `glClear` meets `clear`, but `glGlClear` does not meet `glClear`.

The typed method still forwards to the native method under its own name
(`Typed.forwards_by_native_name`).
-/

namespace BindingGlue

open Text

namespace Naming

variable {head name other : String}

/-- One name loses the prefix and becomes another one, which keeps itself. -/
structure StripsTo (head name other : String) : Prop where
  head_ne : head ≠ ""
  eq_append : ∃ rest, StartsUpper rest ∧ name = head ++ String.ofList rest ∧
    other = String.ofList (lowerFirst rest)
  keeps : stripLegacyPrefix head other = other

theorem StripsTo.stripLegacyPrefix_eq (h : StripsTo head name other) :
    stripLegacyPrefix head name = stripLegacyPrefix head other := by
  obtain ⟨rest, hrest, rfl, rfl⟩ := h.eq_append
  rw [h.keeps]
  exact stripLegacyPrefix_of_append h.head_ne hrest (by simp)

/-- Of two names that meet, the one that loses the prefix becomes the one that keeps itself. -/
theorem stripsTo_of_eq (hname : LosesPrefix head name) (hother : ¬ LosesPrefix head other)
    (h : stripLegacyPrefix head name = stripLegacyPrefix head other) :
    StripsTo head name other := by
  obtain ⟨hhead, rest, hrest, happend⟩ := hname
  have hkeeps := stripLegacyPrefix_of_keeps hother
  rw [stripLegacyPrefix_of_append hhead hrest happend, hkeeps] at h
  refine ⟨hhead, ⟨rest, hrest, ?_, h.symm⟩, hkeeps⟩
  rw [← String.toList_inj, happend, String.toList_append, String.toList_ofList]

/-- Names that both lose the prefix do not meet, if they are made of ASCII characters. -/
theorem eq_of_losesPrefix (hname : LosesPrefix head name) (hother : LosesPrefix head other)
    (hascii : ∀ c ∈ name.toList, c.toNat < 0x80) (hascii' : ∀ c ∈ other.toList, c.toNat < 0x80)
    (h : stripLegacyPrefix head name = stripLegacyPrefix head other) : name = other := by
  obtain ⟨hhead, rest, hrest, happend⟩ := hname
  obtain ⟨-, rest', hrest', happend'⟩ := hother
  rw [stripLegacyPrefix_of_append hhead hrest happend,
    stripLegacyPrefix_of_append hhead hrest' happend', String.ofList_inj] at h
  rw [happend] at hascii
  rw [happend'] at hascii'
  obtain rfl := lowerFirst_inj_of_ascii hrest hrest'
    (fun c hc ↦ hascii c (List.mem_append_right _ hc))
    (fun c hc ↦ hascii' c (List.mem_append_right _ hc)) h
  rw [← String.toList_inj, happend, happend']

/-- Names that both keep themselves do not meet. -/
theorem eq_of_keeps (hname : ¬ LosesPrefix head name) (hother : ¬ LosesPrefix head other)
    (h : stripLegacyPrefix head name = stripLegacyPrefix head other) : name = other := by
  rwa [stripLegacyPrefix_of_keeps hname, stripLegacyPrefix_of_keeps hother] at h

end Naming

namespace Typed

open Naming

variable {generator : Generator} {type : TypeEntry}

/-- A statement is a frame around the call, and only the type of the result says which. -/
theorem statement_frame (generator : Generator) (type : TypeEntry) :
    (∃ fault, ∀ call, statement generator type call = .error fault) ∨
      ∃ front back : String, ∀ call, statement generator type call =
        .ok (front ++ call ++ back) := by
  cases hpacking : type.packing with
  | nothing => exact .inr ⟨"", ";", fun call ↦ by simp [statement, hpacking]⟩
  | numeric | boolean | string =>
    exact .inr ⟨"return ", ";", fun call ↦ by simp [statement, hpacking]⟩
  | ownedObject =>
    exact .inr ⟨"return new " ++ type.typedName ++ "(", ");", fun call ↦ by
      simp [statement, hpacking, String.append_assoc]⟩
  | objectList =>
    rcases helement : generator.element type with fault | element
    · exact .inl ⟨fault, fun call ↦ by simp only [statement, hpacking, helement]; rfl⟩
    · refine .inr ⟨"return ", ".map((item: any) => new " ++ element.typedName ++ "(item));",
        fun call ↦ ?_⟩
      simp only [statement, hpacking, helement, bind, Except.bind, String.append_assoc]
      rfl
  | passThroughObject =>
    refine .inr ⟨"return " ++ generator.options.wrapperCache.typedLookup ++ "(",
      ") as " ++ type.typedName ++ ";", fun call ↦ ?_⟩
    simp [statement, hpacking, String.append_assoc]

/-- The typed methods with one type of result are at fault together, or all of them forward to the
native method under its own name, from the same frame. -/
theorem forwards_by_native_name (generator : Generator) (type : TypeEntry) :
    (∃ fault, ∀ signature : Signature, signature.resultType = type →
      method generator signature = .error fault) ∨
    ∃ front back : String, ∀ signature : Signature, signature.resultType = type →
      method generator signature = .ok (layout (Typed.name generator.options signature.name)
        signature.arguments type.typedName
        (front ++ (generator.options.typedNative ++ "." ++ signature.name ++ "(" ++
          ", ".intercalate (signature.arguments.map (unwrap generator.options)) ++ ")") ++
            back)) := by
  rcases statement_frame generator type with ⟨fault, hstatement⟩ | ⟨front, back, hstatement⟩
  · refine .inl ⟨fault, fun signature htype ↦ ?_⟩
    simp only [method, htype, hstatement]
    rfl
  · refine .inr ⟨front, back, fun signature htype ↦ ?_⟩
    simp only [method, htype, hstatement]
    rfl

/-- **When two methods meet on the typed surface.** Let their names be different and of ASCII
characters. They meet exactly if one of them strips to the other, so never if both lose the prefix
nor if both keep themselves. Whether they meet or not, each typed method calls the native one by its
own name. -/
theorem names_meet_iff (generator : Generator) {name other : String}
    (hname : ∀ c ∈ name.toList, c.toNat < 0x80) (hother : ∀ c ∈ other.toList, c.toNat < 0x80)
    (hne : name ≠ other) :
    (Typed.name generator.options name = Typed.name generator.options other ↔
      StripsTo generator.options.legacyPrefix name other ∨
        StripsTo generator.options.legacyPrefix other name) ∧
    ((LosesPrefix generator.options.legacyPrefix name ↔
        LosesPrefix generator.options.legacyPrefix other) →
      Typed.name generator.options name ≠ Typed.name generator.options other) ∧
    ∀ type : TypeEntry,
      (∃ fault, ∀ signature : Signature, signature.resultType = type →
        method generator signature = .error fault) ∨
      ∃ front back : String, ∀ signature : Signature, signature.resultType = type →
        method generator signature = .ok (layout (Typed.name generator.options signature.name)
          signature.arguments type.typedName
          (front ++ (generator.options.typedNative ++ "." ++ signature.name ++ "(" ++
            ", ".intercalate (signature.arguments.map (unwrap generator.options)) ++ ")") ++
              back)) := by
  have happart : (LosesPrefix generator.options.legacyPrefix name ↔
        LosesPrefix generator.options.legacyPrefix other) →
      Typed.name generator.options name ≠ Typed.name generator.options other := by
    intro hsame heq
    by_cases hloses : LosesPrefix generator.options.legacyPrefix name
    · exact hne (eq_of_losesPrefix hloses (hsame.1 hloses) hname hother heq)
    · exact hne (eq_of_keeps hloses (fun h ↦ hloses (hsame.2 h)) heq)
  refine ⟨⟨fun heq ↦ ?_, ?_⟩, happart, forwards_by_native_name generator⟩
  · -- one of the two loses the prefix and the other one does not
    by_cases hloses : LosesPrefix generator.options.legacyPrefix name
    · refine .inl (stripsTo_of_eq hloses (fun hloses' ↦ ?_) heq)
      exact happart (iff_of_true hloses hloses') heq
    · refine .inr (stripsTo_of_eq (by_contra fun hkeeps ↦ ?_) hloses heq.symm)
      exact happart (iff_of_false hloses hkeeps) heq
  · rintro (hstrips | hstrips)
    · exact hstrips.stripLegacyPrefix_eq
    · exact hstrips.stripLegacyPrefix_eq.symm

/-- A method meets the one whose name is left of its own, unless that name has the prefix too. -/
theorem names_meet_iff_glClear :
    ((∀ c ∈ "glClear".toList, c.toNat < 0x80) ∧ (∀ c ∈ "clear".toList, c.toNat < 0x80) ∧
      Typed.name {} "glClear" = Typed.name {} "clear") ∧
    (∀ c ∈ "glGlClear".toList, c.toNat < 0x80) ∧
      Typed.name {} "glGlClear" ≠ Typed.name {} "glClear" := by
  have hglClear : ∀ c ∈ "glClear".toList, c.toNat < 0x80 := by simp
  have hclear : ∀ c ∈ "clear".toList, c.toNat < 0x80 := by simp
  have hglGlClear : ∀ c ∈ "glGlClear".toList, c.toNat < 0x80 := by simp
  have hstrips : StripsTo "gl" "glClear" "clear" :=
    ⟨by decide, ⟨['C', 'l', 'e', 'a', 'r'], ⟨'C', rfl, rfl⟩, rfl, rfl⟩, rfl⟩
  have hloses : LosesPrefix "gl" "glGlClear" ∧ LosesPrefix "gl" "glClear" :=
    ⟨⟨by decide, ['G', 'l', 'C', 'l', 'e', 'a', 'r'], ⟨'G', rfl, rfl⟩, rfl⟩,
      ⟨by decide, ['C', 'l', 'e', 'a', 'r'], ⟨'C', rfl, rfl⟩, rfl⟩⟩
  let generator : Generator := { engine := Interpreter.engine }
  have hmeet := names_meet_iff generator hglClear hclear (by decide)
  have hdiffer := names_meet_iff generator hglGlClear hglClear (by decide)
  exact ⟨⟨hglClear, hclear, hmeet.1.2 (.inl hstrips)⟩, hglGlClear,
    hdiffer.2.1 (iff_of_true hloses.1 hloses.2)⟩

/-- Outside ASCII two names that lose the prefix may meet: the Kelvin sign has the lower case of the
letter. -/
example : Typed.name {} "gl\u212Aey" = Typed.name {} "glKey" := by decide

end Typed

end BindingGlue
