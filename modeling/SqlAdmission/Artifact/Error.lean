/-!
# Loading errors

Why an artifact cannot be loaded or inspected.
-/

namespace SqlAdmission

inductive LoadError where
  | classNotFound (name : String)
  | linkage (name reason : String)
  deriving DecidableEq

def LoadError.message : LoadError → String
  | classNotFound name => s!"class not found: {name}"
  | linkage name reason => s!"linkage error in {name}: {reason}"

end SqlAdmission
