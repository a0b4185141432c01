import SqlAdmission.DataType
import SqlAdmission.Identifier

/-!
# Catalog rows

The rows the data dictionary keeps: schemas, the objects inside them, and the
registrations of user-defined aggregates.
-/

namespace SqlAdmission

inductive ObjectKind where
  | table
  | procedure
  | function
  | aggregate
  | role
  deriving DecidableEq

namespace ObjectKind

def label : ObjectKind → String
  | table => "TABLE"
  | procedure => "PROCEDURE"
  | function => "FUNCTION"
  | aggregate => "AGGREGATE"
  | role => "ROLE"

def isRoutine : ObjectKind → Bool
  | procedure | function | aggregate => true
  | table | role => false

end ObjectKind

/-- A schema and the authorization identifier that owns it. -/
structure SchemaRow where
  id : SchemaId
  name : String
  owner : String
  deriving DecidableEq

structure ObjectRow where
  id : ObjectId
  schema : SchemaId
  name : String
  kind : ObjectKind
  deriving DecidableEq

/-- A user-defined aggregate as it was declared: the types it was declared for
and the external name of the artifact that implements it. -/
structure Registration where
  id : ObjectId
  schemaName : String
  name : String
  inputType : DataType
  returnType : DataType
  implementation : String
  deriving DecidableEq

end SqlAdmission
