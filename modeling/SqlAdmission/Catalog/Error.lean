import SqlAdmission.Identifier

/-!
# Catalog errors

Why a change of the catalog or a read of the dictionary fails.
-/

namespace SqlAdmission

inductive CatalogError where
  | schemaExists (name : String)
  | schemaNotFound (id : SchemaId)
  | objectExists (schema name : String)
  | objectNotFound (id : ObjectId)
  | readFailed (reason : String)
  deriving DecidableEq

def CatalogError.message : CatalogError → String
  | schemaExists name => s!"Schema '{name}' already exists"
  | schemaNotFound id => s!"Schema {id.val.toNat} not found"
  | objectExists schema name => s!"Object '{schema}'.'{name}' already exists"
  | objectNotFound id => s!"Object {id.val.toNat} not found"
  | readFailed reason => s!"Dictionary read failed: {reason}"

end SqlAdmission
