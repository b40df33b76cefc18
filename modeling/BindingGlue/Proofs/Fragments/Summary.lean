import BindingGlue.Proofs.Fragments.Faults
import BindingGlue.Proofs.Interpreter.Documented
import BindingGlue.Proofs.Signature.Summary

/-!
# What the fragments depend on

The fragments of a line depend on the parts of its signature and on nothing else that was written:
the mark of virtual methods has no part in them, and the line itself only in a refusal
(`Generator.fragments_written`). Under the standard vocabulary the parts can be told from the
summary, so lines with one summary have the same fragments (`Generator.expand_eq_of_summary_eq`).
-/

namespace BindingGlue

variable {engine : Template.DocumentedEngine} {generator : Generator}
  {className line line' : String}
  {signature signature' : Signature}

/-- The refusal of another line for the same reason. -/
def Refusal.about (line : String) : Refusal → Refusal
  | noInput => noInput
  | missingHeader _ => missingHeader line
  | grammarMismatch fault _ => grammarMismatch fault line
  | unsupportedType token fault _ => unsupportedType token fault line
  | custom code message _ => custom code message line

@[simp]
theorem Refusal.code_about (line : String) (refusal : Refusal) :
    (refusal.about line).code = refusal.code := by
  cases refusal <;> rfl

@[simp]
theorem Refusal.message_about (line : String) (refusal : Refusal) :
    (refusal.about line).message = refusal.message := by
  cases refusal <;> rfl

/-- The failure at another line for the same reason. -/
def Failure.about (line : String) : Failure → Failure
  | refused refusal => refused (refusal.about line)
  | broken fault => broken fault

/-- A property depends on how it was written only in a refusal, which shows the line. -/
theorem Typed.property_written (options : Options) (signature : Signature) (isVirtual : Bool)
    (line : String) :
    property options { signature with isVirtual := isVirtual, line := line } =
      (property options signature).mapError (Failure.about line) := by
  have hresult : Signature.hasResult { signature with isVirtual := isVirtual, line := line } =
      signature.hasResult := rfl
  rw [property, property, hresult]
  split
  case isTrue =>
    simp only [getter]
    split
    · rfl
    split
    · rfl
    split <;> rfl
  case isFalse =>
    simp only [setter]
    split <;> rfl

/-- Fragments depend on how a signature was written only in a refusal, which shows the line. -/
theorem Generator.fragments_written (generator : Generator) (className : String) (mode : Mode)
    (signature : Signature) (isVirtual : Bool) (line : String) :
    generator.fragments className mode { signature with isVirtual := isVirtual, line := line } =
      (generator.fragments className mode signature).mapError (Failure.about line) := by
  cases mode with
  | operation =>
    have hsame : generator.operationFragments className
        { signature with isVirtual := isVirtual, line := line } =
          generator.operationFragments className signature := rfl
    rw [fragments, fragments, hsame]
    cases generator.operationFragments className signature <;> rfl
  | property =>
    rw [fragments, fragments, Typed.property_written]
    cases Typed.property generator.options signature <;> rfl

namespace Generator

/-- Lines whose signatures have one summary have the same outcome, but for the line in a refusal. -/
theorem expand_eq_mapError_of_summary_eq (className : String) (mode : Mode)
    (hread : Signature.read generator.catalogue line = .ok signature)
    (hread' : Signature.read generator.catalogue line' = .ok signature')
    (hprintable : signature.IsPrintable generator.catalogue)
    (hprintable' : signature'.IsPrintable generator.catalogue)
    (hsummary : signature.summary = signature'.summary) :
    generator.expand className mode line' =
      (generator.expand className mode line).mapError (Failure.about signature'.line) := by
  rw [expand_of_read hread, expand_of_read hread',
    Signature.eq_of_summary_eq hprintable hprintable' hsummary]
  exact fragments_written generator className mode signature _ _

/-- **The summary determines what is generated**, under the standard generator: for two lines whose
signatures have one summary, the fragments are the same in operation mode, and in property mode
either they are the same or the refusals differ at most in the line that they show. -/
theorem expand_eq_of_summary_eq (hread : Signature.read .standard line = .ok signature)
    (hread' : Signature.read .standard line' = .ok signature')
    (hsummary : signature.summary = signature'.summary) (className : String) :
    (∃ fragments, expand (.standard engine) className .operation line = .ok fragments ∧
      expand (.standard engine) className .operation line' = .ok fragments) ∧
    ((∃ fragments, expand (.standard engine) className .property line = .ok fragments ∧
        expand (.standard engine) className .property line' = .ok fragments) ∨
      ∃ refusal refusal' : Refusal,
        expand (.standard engine) className .property line = .error (.refused refusal) ∧
          expand (.standard engine) className .property line' = .error (.refused refusal') ∧
            refusal.code = refusal'.code ∧ refusal.message = refusal'.message) := by
  have hsame : ∀ mode, expand (.standard engine) className mode line' =
      (expand (.standard engine) className mode line).mapError (Failure.about signature'.line) := by
    intro mode
    exact expand_eq_mapError_of_summary_eq className mode hread hread'
      (Signature.isPrintable_of_read hread) (Signature.isPrintable_of_read hread') hsummary
  have hread : Signature.read (catalogue (.standard engine)) line = .ok signature := hread
  constructor
  · obtain ⟨fragments, hfragments⟩ := exists_expand_eq_ok className
      (usesStandardTemplates_standard engine) hread
      (not_lacksElement_of_mem_standard (Signature.resultType_mem_of_read hread))
    exact ⟨fragments, hfragments, by rw [hsame, hfragments]; rfl⟩
  · have hexpand : expand (.standard engine) className .property line =
        fragments (.standard engine) className .property signature :=
      expand_of_read hread .property
    rcases houtcome : fragments (.standard engine) className .property signature with
      (refusal | fault) | fragments
    · rw [houtcome] at hexpand
      exact .inr ⟨refusal, refusal.about signature'.line, hexpand, by rw [hsame, hexpand]; rfl,
        by simp, by simp⟩
    · exact absurd houtcome (fragments_standard_ne_broken hread .property fault)
    · rw [houtcome] at hexpand
      exact .inl ⟨fragments, hexpand, by rw [hsame, hexpand]; rfl⟩

/-- A line with all that a summary leaves out, and one written otherwise. Neither is a property. -/
theorem expand_eq_of_summary_eq_layouts :
    (∃ fragments,
      expand (.standard Interpreter.documented) "QPainter" .operation
          "//TODO:virtual const QRect& f(const QRect &a,  int  b = 1, void) const;" =
        .ok fragments ∧
      expand (.standard Interpreter.documented) "QPainter" .operation
          "// TODO: QRect f( QRect* a , const int & b )" =
        .ok fragments) ∧
    ∃ refusal : Refusal,
      expand (.standard Interpreter.documented) "QPainter" .property
          "// TODO: QRect f( QRect* a , const int & b )" =
          .error (.refused refusal) ∧
        refusal.code = .grammarMismatch ∧
        refusal.message = "property getter 'f' must not take arguments" := by
  have hread : Signature.read .standard
      "//TODO:virtual const QRect& f(const QRect &a,  int  b = 1, void) const;" = .ok {
        name := "f"
        resultType := Vocabulary.valueObject "QRect"
        arguments := [{ type := Vocabulary.valueObject "QRect", name := "a" },
          { type := Vocabulary.signed "int", name := "b" }]
        isVirtual := true
        line := "//TODO:virtual const QRect& f(const QRect &a,  int  b = 1, void) const;" } := by
    decide
  have hread' : Signature.read .standard "// TODO: QRect f( QRect* a , const int & b )" = .ok {
      name := "f"
      resultType := Vocabulary.valueObject "QRect"
      arguments := [{ type := Vocabulary.valueObject "QRect", name := "a" },
        { type := Vocabulary.signed "int", name := "b" }]
      line := "// TODO: QRect f( QRect* a , const int & b )" } := by
    decide
  obtain ⟨hoperation, hproperty⟩ := expand_eq_of_summary_eq hread hread' (by rfl) "QPainter"
  refine ⟨hoperation, ?_⟩
  have hrefused : expand (.standard Interpreter.documented) "QPainter" .property
      "//TODO:virtual const QRect& f(const QRect &a,  int  b = 1, void) const;" =
        .error (.refused (.grammarMismatch (.getterArity "f")
          "//TODO:virtual const QRect& f(const QRect &a,  int  b = 1, void) const;")) := by
    rfl
  rw [hrefused] at hproperty
  rcases hproperty with ⟨fragments, hfragments, -⟩ | ⟨refusal, refusal', h, h', hcode, hmessage⟩
  · cases hfragments
  · cases h
    exact ⟨refusal', h', hcode.symm, hmessage.symm⟩

end Generator

end BindingGlue
