/-!
# Authorization policies

Who may do everything, and whether the grants made to everyone count.
-/

namespace SqlAdmission

/-- The authorization settings of a database. -/
structure Policy where
  databaseOwner : Option String := none
  honorsPublic : Bool := true
  deriving DecidableEq

namespace Policy

/-- The policy under which only a user's own grants count. -/
def strict : Policy := { honorsPublic := false }

def ownedBy (owner : String) : Policy := { databaseOwner := some owner }

def isOwner (policy : Policy) (user : String) : Bool :=
  policy.databaseOwner = some user

end Policy

end SqlAdmission
