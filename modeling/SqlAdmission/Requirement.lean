import SqlAdmission.Catalog.Row
import SqlAdmission.Privilege

/-!
# Requirements

What a statement needs before it may be bound: a mode of access to one catalog
object, which takes a privilege, or the ownership of a schema.  A requirement
names its target by identifier only.
-/

namespace SqlAdmission

/-- How a statement uses a catalog object. -/
inductive Access where
  | execute
  | select (columns : Option (List String))
  | update (columns : List String)
  | assume
  deriving DecidableEq

namespace Access

def privilege : Access → Privilege
  | execute => .execute
  | select _ => .select
  | update _ => .update
  | assume => .usage

/-- The columns an access touches, or none for the whole object. -/
def columns : Access → Option (List String)
  | select columns => columns
  | update columns => some columns
  | execute | assume => none

def accepts : Access → ObjectKind → Bool
  | execute, kind => kind.isRoutine
  | select _, kind | update _, kind => kind = .table
  | assume, kind => kind = .role

def targetKind : Access → String
  | execute => "routine"
  | select _ | update _ => "table"
  | assume => "role"

end Access

inductive Requirement where
  | access (object : ObjectId) (mode : Access)
  | ownership (schema : SchemaId)
  deriving DecidableEq

namespace Requirement

/-- The privilege a grant must carry; ownership is not granted. -/
def privilege? : Requirement → Option Privilege
  | access _ mode => some mode.privilege
  | ownership _ => none

def columns : Requirement → Option (List String)
  | access _ mode => mode.columns
  | ownership _ => none

def accepts : Requirement → ObjectKind → Bool
  | access _ mode, kind => mode.accepts kind
  | ownership _, _ => false

def targetKind : Requirement → String
  | access _ mode => mode.targetKind
  | ownership _ => "schema"

end Requirement

end SqlAdmission
