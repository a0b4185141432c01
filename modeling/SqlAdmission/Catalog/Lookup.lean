import SqlAdmission.Catalog.Row
import SqlAdmission.Grant.Basic

/-!
# Dictionary look-ups

The four things a statement may ask the data dictionary, each with the kind of
row it is answered with.
-/

namespace SqlAdmission

/-- A question to the data dictionary. -/
inductive Lookup where
  | grant (object : ObjectId) (grantee : String)
  | object (id : ObjectId)
  | schema (id : SchemaId)
  | registration (id : ObjectId)
  deriving DecidableEq

namespace Lookup

/-- The kind of row that answers a look-up. -/
@[reducible] def Row : Lookup → Type
  | grant _ _ => Grant
  | object _ => ObjectRow
  | schema _ => SchemaRow
  | registration _ => Registration

inductive Kind where
  | grant
  | object
  | schema
  | registration
  deriving DecidableEq

def kind : Lookup → Kind
  | grant _ _ => .grant
  | object _ => .object
  | schema _ => .schema
  | registration _ => .registration

/-- A row is filed where it belongs when its own key is the one asked for. -/
def Filed : (lookup : Lookup) → lookup.Row → Prop
  | grant target grantee, row => row.object = target ∧ row.grantee = grantee
  | object id, row => row.id = id
  | schema id, row => row.id = id
  | registration id, row => row.id = id

end Lookup

end SqlAdmission
