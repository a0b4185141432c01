import SqlAdmission.Text.Uppercase
import Std.Data.ExtTreeMap

/-!
# Privileges

The kinds of privilege a grant can carry.  A privilege is read from its name
in any letter case; privileges are ordered as they are listed, so that they
can key a map.
-/

namespace SqlAdmission

inductive Privilege where
  | execute
  | select
  | insert
  | update
  | delete
  | references
  | trigger
  | usage
  deriving DecidableEq

namespace Privilege

def all : List Privilege :=
  [execute, select, insert, update, delete, references, trigger, usage]

/-- The name under which a privilege is granted and reported. -/
def name : Privilege → String
  | execute => "EXECUTE"
  | select => "SELECT"
  | insert => "INSERT"
  | update => "UPDATE"
  | delete => "DELETE"
  | references => "REFERENCES"
  | trigger => "TRIGGER"
  | usage => "USAGE"

/-- The privilege whose name a text is, once it is upper-cased. -/
def parse? (text : String) : Option Privilege :=
  all.find? (·.name = Text.uppercase text)

def rank : Privilege → Nat
  | execute => 0
  | select => 1
  | insert => 2
  | update => 3
  | delete => 4
  | references => 5
  | trigger => 6
  | usage => 7

theorem rank_injective {left right : Privilege} (same : left.rank = right.rank) :
    left = right := by
  cases left <;> cases right <;> simp_all [rank]

theorem parse?_eq_some_iff {text : String} {privilege : Privilege} :
    parse? text = some privilege ↔ Text.uppercase text = privilege.name := by
  constructor
  · intro found
    have named := List.find?_some found
    exact (of_decide_eq_true named).symm
  · intro named
    rw [parse?, named]
    cases privilege <;> decide

instance : Ord Privilege := ⟨compareOn rank⟩

instance : Std.TransOrd Privilege :=
  inferInstanceAs (Std.TransCmp (compareOn rank))

instance : Std.LawfulEqOrd Privilege where
  eq_of_compare same :=
    rank_injective (Std.LawfulEqOrd.eq_of_compare (α := Nat) same)

end Privilege

end SqlAdmission
