import SqlAdmission.Artifact.Error
import SqlAdmission.Catalog.Row
import SqlAdmission.Requirement

/-!
# Audit events

What is logged while statements are bound and artifacts deployed: each event
with its level, its message and the fields it carries.
-/

namespace SqlAdmission

/-- An event of the audit log. -/
inductive Event where
  | admitted (user : String) (requirement : Requirement)
  | rejected (user : String) (requirement : Requirement) (sqlState : String)
  | ownerAdmitted (user : String) (object : ObjectId)
  | loadFailed (registration : Registration) (error : LoadError)
  | aggregateBound (registration : Registration)
  | deployed (artifact : String) (generation : UInt64)
  deriving DecidableEq

namespace Event

inductive Level where
  | debug
  | warn
  deriving DecidableEq

def Level.name : Level → String
  | debug => "DEBUG"
  | warn => "WARN"

inductive Field where
  | text (value : String)
  | number (value : UInt64)
  deriving DecidableEq

/-- Only a failure to load is more than a debugging matter. -/
def level : Event → Level
  | loadFailed _ _ => .warn
  | _ => .debug

def message : Event → String
  | admitted _ _ => "permission admitted"
  | rejected _ _ _ => "permission rejected"
  | ownerAdmitted _ _ => "database owner admitted"
  | loadFailed _ _ => "aggregate implementation could not be loaded"
  | aggregateBound _ => "user aggregate bound"
  | deployed _ _ => "artifact deployed"

/-- The fields that name a registered aggregate. -/
def aggregateFields (registration : Registration) : List (String × Field) :=
  [("aggregate", .text registration.name), ("schema", .text registration.schemaName),
    ("class", .text registration.implementation)]

/-- The fields that hold a text or a number.  A verdict is logged with a field
`requirement` as well, which is left out: it shows the requirement that the
event holds in a form meant for debugging. -/
def fields : Event → List (String × Field)
  | admitted user _ => [("user", .text user)]
  | rejected user _ sqlState => [("user", .text user), ("sql_state", .text sqlState)]
  | ownerAdmitted user object =>
    [("user", .text user), ("object", .text (toString object.val.toNat))]
  | loadFailed registration error =>
    aggregateFields registration ++ [("error", .text error.message)]
  | aggregateBound registration =>
    aggregateFields registration ++ [("return_type", .text registration.returnType.sql)]
  | deployed artifact generation =>
    [("artifact", .text artifact), ("generation", .number generation)]

end Event

end SqlAdmission
