import BindingGlue.Fragments.Typed

/-!
# Signatures that are no property

In property mode a signature is refused for the number of its arguments, or for a result type that
no conversion reads (`Typed.IsUnfit`), and for nothing else (`Typed.property_eq_refused_iff`): what
is left to go wrong is the conversion itself, which is a fault of the catalogue. Neither the options
nor the templates have a part in it.
-/

namespace BindingGlue.Typed

variable {options : Options} {signature : Signature} {refusal : Refusal}

/-- The refusal of a signature that is no property. -/
inductive IsUnfit (signature : Signature) : Refusal → Prop where
  /-- A setter has no value to set, or several. -/
  | setterArity (hvoid : signature.hasResult = false) (hcount : signature.arguments.length ≠ 1) :
    IsUnfit signature (.grammarMismatch (.setterArity signature.name) signature.line)
  /-- A getter is given arguments. -/
  | getterArity (hresult : signature.hasResult) (harguments : signature.arguments ≠ []) :
    IsUnfit signature (.grammarMismatch (.getterArity signature.name) signature.line)
  /-- A getter has a type that is not read from a generic value. -/
  | unreadable (hresult : signature.hasResult) (harguments : signature.arguments = [])
    (htype : signature.resultType.propertyGetter = none) :
    IsUnfit signature (.unsupportedType signature.resultType.name .unreadable signature.line)

theorem setter_eq_error_of_length_ne (h : signature.arguments.length ≠ 1) :
    setter options signature =
      .error (.grammarMismatch (.setterArity signature.name) signature.line) := by
  rw [setter]
  split
  case h_1 argument heq => exact absurd (by rw [heq]; rfl) h
  case h_2 => rfl

theorem isUnfit_of_setter (hvoid : signature.hasResult = false)
    (h : setter options signature = .error refusal) : IsUnfit signature refusal := by
  rw [setter] at h
  split at h
  case h_1 => cases h
  case h_2 hne =>
    obtain rfl := Except.error.inj h
    refine .setterArity hvoid fun hlength ↦ ?_
    obtain ⟨argument, heq⟩ := List.length_eq_one_iff.1 hlength
    exact hne argument heq

theorem isUnfit_of_getter (hresult : signature.hasResult)
    (h : getter options signature = .error (.refused refusal)) : IsUnfit signature refusal := by
  simp only [getter] at h
  split at h
  case isTrue harguments =>
    obtain rfl := Failure.refused.inj (Except.error.inj h)
    exact .getterArity hresult (by simpa using harguments)
  case isFalse harguments =>
    split at h
    case h_1 htype =>
      obtain rfl := Failure.refused.inj (Except.error.inj h)
      exact .unreadable hresult (by simpa using harguments) htype
    case h_2 =>
      split at h
      case h_1 => cases Except.error.inj h
      case h_2 => cases h

/-- **A signature is no property** exactly for the number of its arguments or for its type. -/
theorem property_eq_refused_iff :
    property options signature = .error (.refused refusal) ↔ IsUnfit signature refusal := by
  constructor
  · intro h
    rw [property] at h
    split at h
    case isTrue hresult => exact isUnfit_of_getter hresult h
    case isFalse hvoid =>
      rcases hsetter : setter options signature with other | typed
      · rw [hsetter] at h
        obtain rfl := Failure.refused.inj (Except.error.inj h)
        exact isUnfit_of_setter (by simpa using hvoid) hsetter
      · rw [hsetter] at h
        cases h
  · intro h
    cases h with
    | setterArity hvoid hcount =>
      rw [property, if_neg (by simp [hvoid]), setter_eq_error_of_length_ne hcount]
      rfl
    | getterArity hresult harguments => simp [property, getter, hresult, harguments]
    | unreadable hresult harguments htype => simp [property, getter, hresult, harguments, htype]

end BindingGlue.Typed
