import SqlAdmission.Inquiry.Basic
import SqlAdmission.Statement.Coverage
import SqlAdmission.Statement.Policy

/-!
# Checking requirements

Whether a statement may rely on a capability.  The target is resolved for every
user; the owner of the database then passes without any grant, and everyone
else by the grants made to them and, where the policy honours them, to
everyone.  Each single check ends with one event that tells its verdict.
-/

namespace SqlAdmission

/-- A statement to bind: the transaction it runs in, the user who runs it, and
the policy it is judged by. -/
structure Statement where
  txn : TxnId
  user : String
  policy : Policy := {}

namespace Statement

/-- What the dictionary answers to a look-up.  A failing read rejects. -/
def lookup (statement : Statement) (wanted : Lookup) : Decision (Option wanted.Row) := do
  match ← Decision.query (.lookup statement.txn wanted) with
  | .ok row => return row
  | .error error => throw (.catalogRead error)

def byOwner (statement : Statement) : Bool :=
  statement.policy.isOwner statement.user

/-- Whether the grants to everyone are looked up besides the user's own. -/
def consultsPublic (statement : Statement) : Bool :=
  statement.policy.honorsPublic && statement.user ≠ publicGrantee

/-- The grants on an object that apply to the user.  One that is filed under
another object is left out. -/
def applicableGrants (statement : Statement) (object : ObjectId) : Decision (List Grant) := do
  let own ← statement.lookup (.grant object statement.user)
  let everyones ←
    if statement.consultsPublic then statement.lookup (.grant object publicGrantee)
    else pure none
  return (own.toList ++ everyones.toList).filter (·.object = object)

/-- Reject an access for what its grants lack.  The schema is looked up for its
name. -/
def deny (statement : Statement) (row : ObjectRow) (mode : Access)
    (missing : Option (List String)) (forGrant : Bool) : Decision Unit := do
  match ← statement.lookup (.schema row.schema) with
  | none => throw (.danglingReference "schema" row.schema.val)
  | some schema =>
    throw (.permissionDenied {
      user := statement.user
      privilege := mode.privilege.name
      objectType := row.kind.label
      schema := schema.name
      name := some row.name
      columns := missing
      forGrant })

def decideAccess (statement : Statement) (object : ObjectId) (mode : Access)
    (forGrant : Bool) : Decision Unit := do
  match (← statement.lookup (.object object)).filter (mode.accepts ·.kind) with
  | none => throw (.danglingReference mode.targetKind object.val)
  | some row =>
    if statement.byOwner then
      Decision.report (.ownerAdmitted statement.user object)
    else
      match mode.coverage (← statement.applicableGrants object) with
      | .complete => return
      | .lacking missing => statement.deny row mode missing forGrant

/-- Decide on the ownership of a schema, which the owner of the database has
too. -/
def decideOwnership (statement : Statement) (schema : SchemaId) (forGrant : Bool) :
    Decision Unit := do
  match ← statement.lookup (.schema schema) with
  | none => throw (.danglingReference "schema" schema.val)
  | some row =>
    if row.owner = statement.user || statement.byOwner then
      return
    else
      throw (.permissionDenied {
        user := statement.user
        privilege := "OWNERSHIP"
        objectType := "SCHEMA"
        schema := row.name
        name := none
        columns := none
        forGrant })

def decision (statement : Statement) (requirement : Requirement) (forGrant : Bool) :
    Decision Unit :=
  match requirement with
  | .access object mode => statement.decideAccess object mode forGrant
  | .ownership schema => statement.decideOwnership schema forGrant

def verdict (statement : Statement) (requirement : Requirement) :
    Except Rejection Unit → Event
  | .ok _ => .admitted statement.user requirement
  | .error rejection => .rejected statement.user requirement rejection.sqlState

/-- Check a requirement and log the verdict.  Whether the capability is to be
used or granted matters only to how a denial is reported. -/
def check (statement : Statement) (requirement : Requirement) (forGrant : Bool) :
    Decision Unit :=
  ExceptT.mk do
    let result ← (statement.decision requirement forGrant).run
    Inquiry.report (statement.verdict requirement result)
    return result

/-- Check requirements in order, up to the first that is rejected. -/
def checkAll (statement : Statement) (requirements : List Requirement) (forGrant : Bool) :
    Decision Unit :=
  match requirements with
  | [] => pure ()
  | requirement :: rest => do
    statement.check requirement forGrant
    statement.checkAll rest forGrant

end Statement

end SqlAdmission
