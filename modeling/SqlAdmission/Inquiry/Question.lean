import SqlAdmission.Artifact.Basic
import SqlAdmission.Catalog.Error
import SqlAdmission.Catalog.Lookup

/-!
# Questions

All that binding a statement asks of the world: look-ups in the dictionary,
made in a transaction, and the loading and inspection of artifacts.  Every
question can be answered by a failure.
-/

namespace SqlAdmission

/-- A question to the dictionary or to the loader of artifacts. -/
inductive Question where
  | lookup (txn : TxnId) (wanted : Lookup)
  | load (name : String)
  | arguments (handle : Handle) (contract : Contract)
  deriving DecidableEq

namespace Question

/-- The answers a question can get. -/
@[reducible] def Answer : Question → Type
  | lookup _ wanted => Except CatalogError (Option wanted.Row)
  | load _ => Except LoadError Handle
  | arguments _ _ => Except LoadError (Option TypeArguments)

/-- Whether the loader is asked, and not the dictionary. -/
def isForLoader : Question → Bool
  | lookup _ _ => false
  | load _ | arguments _ _ => true

end Question

end SqlAdmission
