import BindingGlue.Signature.Basic

/-!
# Writing signatures

`Signature.render` writes a signature as a line in one fixed layout, with single blanks, the marks
and qualifiers other than `virtual` left out, and every argument as its type's name and its own.
-/

namespace BindingGlue.Signature

/-- The signature as a line. -/
def render (signature : Signature) : String :=
  "// TODO: " ++ (if signature.isVirtual then "virtual " else "") ++ signature.resultType.name ++
    " " ++ signature.name ++ "(" ++ argumentList signature.arguments ++ ")"

end BindingGlue.Signature
