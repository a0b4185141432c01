import Std.Data.ExtTreeMap

/-!
# Identifiers

Catalog objects, schemas and transactions are named by 64-bit numbers.  Object
and schema identifiers are ordered by their number, so both can key a map.
-/

namespace SqlAdmission

/-- The identifier of a routine, table, role or aggregate. -/
structure ObjectId where
  val : UInt64
  deriving DecidableEq

structure SchemaId where
  val : UInt64
  deriving DecidableEq

/-- The transaction in which the dictionary is read. -/
structure TxnId where
  val : UInt64
  deriving DecidableEq

instance : Ord ObjectId := ⟨compareOn ObjectId.val⟩

instance : Std.TransOrd ObjectId :=
  inferInstanceAs (Std.TransCmp (compareOn ObjectId.val))

instance : Std.LawfulEqOrd ObjectId where
  eq_of_compare {left right} same := by
    cases left
    cases right
    exact congrArg ObjectId.mk (Std.LawfulEqOrd.eq_of_compare same)

instance : Ord SchemaId := ⟨compareOn SchemaId.val⟩

instance : Std.TransOrd SchemaId :=
  inferInstanceAs (Std.TransCmp (compareOn SchemaId.val))

instance : Std.LawfulEqOrd SchemaId where
  eq_of_compare {left right} same := by
    cases left
    cases right
    exact congrArg SchemaId.mk (Std.LawfulEqOrd.eq_of_compare same)

end SqlAdmission
