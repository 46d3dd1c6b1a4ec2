import TemplateTree.Proofs.Build.Exits
import TemplateTree.Proofs.Run.Blindness
import TemplateTree.Settings.Basic

/-!
# Reporting does not matter

Whatever is done with generators is done in the same way however it is reported.  Two
reporters see the same answers, the same files and the same counts; on the output stream
there is nothing but what commands of the settings printed.
-/

namespace TemplateTree

open Session Job

variable {host : Host} {P : Text → Prop}

/-! ## Writing -/

namespace Job

end Job

namespace Settings

end Settings

/-! ## Generators -/

namespace Generator

variable (g : Generator) (overrides : Option Namespace)

end Generator

/-! ## Operations one after the other -/

namespace Operation

end Operation

namespace Operation

variable {s u s' u' : Session} {g? : Option Generator} {op : Operation} {job : Job Answer}

end Operation

end TemplateTree
