import SqlAdmission.Grant.Basic
import SqlAdmission.Requirement

/-!
# Coverage

Whether a list of grants carries all that an access needs.  The whole object
must be covered by one of them; columns may be covered one by one, each by any
of them.
-/

namespace SqlAdmission

/-- What grants leave of an access: nothing, or the columns that are missing,
or the whole object. -/
inductive Coverage where
  | complete
  | lacking (columns : Option (List String))
  deriving DecidableEq

/-- The columns of a list that no grant covers. -/
def uncoveredColumns (grants : List Grant) (privilege : Privilege)
    (columns : List String) : List String :=
  columns.filter fun column => !grants.any (·.reaches privilege column)

/-- How far grants cover an access. -/
def Access.coverage (mode : Access) (grants : List Grant) : Coverage :=
  match mode.columns with
  | none =>
    if grants.any (·.covers mode.privilege none) then .complete else .lacking none
  | some columns =>
    match uncoveredColumns grants mode.privilege columns with
    | [] => .complete
    | missing => .lacking (some missing)

end SqlAdmission
