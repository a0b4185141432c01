import SqlAdmission.Grant.Scope
import SqlAdmission.Identifier
import SqlAdmission.Privilege

/-!
# Grants

A grant records the privileges one grantee holds on one object.  Each
privilege has a column scope of its own, so widening one never widens another.
Grants to `PUBLIC` are grants to everyone.
-/

namespace SqlAdmission

/-- The grantee whose grants are everyone's. -/
def publicGrantee : String := "PUBLIC"

/-- The privileges a grantee holds on an object, each with its scope. -/
structure Grant where
  grantee : String
  object : ObjectId
  scopes : Std.ExtTreeMap Privilege Scope
  grantor : String

namespace Grant

def ofPrivileges (grantee : String) (object : ObjectId)
    (privileges : List Privilege) (grantor : String) : Grant where
  grantee := grantee
  object := object
  scopes := privileges.foldl (fun scopes privilege => scopes.insert privilege .everyColumn) ∅
  grantor := grantor

/-- The grant with every privilege restricted to the same columns. -/
def restrictTo (grant : Grant) (columns : List String) : Grant :=
  { grant with scopes := grant.scopes.map fun _ _ => .only columns }

/-- The scope in which the grant carries a privilege, if it carries it. -/
def scope? (grant : Grant) (privilege : Privilege) : Option Scope :=
  grant.scopes[privilege]?

def holds (grant : Grant) (privilege : Privilege) : Bool :=
  (grant.scope? privilege).isSome

def reaches (grant : Grant) (privilege : Privilege) (column : String) : Bool :=
  (grant.scope? privilege).any (·.reaches column)

/-- Whether the grant carries a privilege on the columns of a list, or on the
whole object where no list is given.  Only an unrestricted scope covers the
whole object. -/
def covers (grant : Grant) (privilege : Privilege) (columns : Option (List String)) : Bool :=
  (grant.scope? privilege).any fun scope =>
    match columns with
    | none => scope.isWhole
    | some columns => columns.all scope.reaches

def isEmpty (grant : Grant) : Bool :=
  grant.scopes.isEmpty

/-- The grant with one more privilege in a scope, joined with the scope in
which it carries the privilege already. -/
def widen (grant : Grant) (entry : Privilege × Scope) : Grant :=
  { grant with
    scopes := grant.scopes.alter entry.1 fun own =>
      some (own.elim entry.2 (·.union entry.2)) }

/-- The grant with every privilege of another one added.  Grantee, object and
grantor stay its own. -/
def merge (own more : Grant) : Grant :=
  more.scopes.toList.foldl widen own

def revoke (grant : Grant) (privilege : Privilege) : Grant :=
  { grant with scopes := grant.scopes.erase privilege }

end Grant

/-- The place of a grant in the catalog: one for each object and grantee. -/
structure GrantKey where
  object : ObjectId
  grantee : String
  deriving DecidableEq

namespace GrantKey

instance : Ord GrantKey := ⟨compareLex (compareOn object) (compareOn grantee)⟩

instance : Std.TransOrd GrantKey :=
  inferInstanceAs (Std.TransCmp (compareLex (compareOn object) (compareOn grantee)))

instance : Std.LawfulEqOrd GrantKey where
  eq_of_compare {left right} same := by
    have both : compare left.object right.object = .eq ∧
        compare left.grantee right.grantee = .eq :=
      Ordering.then_eq_eq.mp same
    cases left
    cases right
    have objects := Std.LawfulEqOrd.eq_of_compare both.1
    have grantees := Std.LawfulEqOrd.eq_of_compare both.2
    simp_all

end GrantKey

def Grant.key (grant : Grant) : GrantKey :=
  ⟨grant.object, grant.grantee⟩

end SqlAdmission
