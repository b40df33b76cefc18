import BindingGlue.Fragments.Basic

/-!
# Outputs

The fragments of a whole batch, in one list for each section of the report. A fragment that is
missing adds nothing to its list.
-/

namespace BindingGlue

/-- The fragments of a batch, in the order of its lines. -/
structure Output where
  /-- The class that the methods belong to. -/
  className : String
  /-- What is generated for them. -/
  mode : Mode
  /-- The native declarations. -/
  declarations : List String := []
  /-- The entries in the table of exposed methods. -/
  registrations : List String := []
  /-- The native bodies. -/
  nativeBodies : List String := []
  /-- The typed methods. -/
  typed : List String := []
  deriving DecidableEq

namespace Output

/-- The output with further fragments at the end of its lists. -/
def add (output : Output) (fragments : Fragments) : Output :=
  { output with
    declarations := output.declarations ++ fragments.declaration.toList
    registrations := output.registrations ++ fragments.registration.toList
    nativeBodies := output.nativeBodies ++ fragments.nativeBody.toList
    typed := output.typed ++ [fragments.typed] }

/-- The number of methods: each has one typed fragment. -/
def methodCount (output : Output) : Nat :=
  output.typed.length

/-- Adding fragments counts one more method. -/
@[simp]
theorem methodCount_add (output : Output) (fragments : Fragments) :
    (output.add fragments).methodCount = output.methodCount + 1 := by
  simp [add, methodCount]

end Output

end BindingGlue
