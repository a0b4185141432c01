import SqlAdmission.Grant.Lemmas

/-!
# Grants as joins

Merging joins two grants: what the merged grant covers is what the two cover
together, and that is the least that covers as much as either.  Columns stay in
the order in which they were first granted, so that merging is associative and
idempotent on the spot.  Two grants merged the other way round may list their
columns in another order, which no coverage tells.
-/

namespace SqlAdmission

namespace Scope

/-! ## Lists of columns -/

theorem addColumn_of_mem {columns : List String} {column : String}
    (listed : column ∈ columns) : addColumn columns column = columns :=
  if_pos (List.contains_iff_mem.mpr listed)

theorem foldl_addColumn_of_subset {own more : List String}
    (included : more ⊆ own) : more.foldl addColumn own = own := by
  induction more with
  | nil => rfl
  | cons first rest induction =>
      obtain ⟨listed, restIncluded⟩ := List.cons_subset.mp included
      rw [List.foldl_cons, addColumn_of_mem listed, induction restIncluded]

theorem foldl_addColumn_addColumn (own more : List String) (column : String) :
    (addColumn more column).foldl addColumn own =
      addColumn (more.foldl addColumn own) column := by
  by_cases listed : column ∈ more
  · have added : column ∈ more.foldl addColumn own :=
      mem_foldl_addColumn.mpr (.inr listed)
    rw [addColumn_of_mem listed, addColumn_of_mem added]
  · have appended : addColumn more column = more ++ [column] :=
      if_neg (mt List.contains_iff_mem.mp listed)
    rw [appended, List.foldl_append]
    rfl

/-- Columns end up in the same order whether they are added to a list that is
there already or gathered first. -/
theorem foldl_addColumn_assoc (own more further : List String) :
    (further.foldl addColumn more).foldl addColumn own =
      further.foldl addColumn (more.foldl addColumn own) := by
  induction further generalizing more with
  | nil => rfl
  | cons first rest induction =>
      rw [List.foldl_cons, List.foldl_cons, induction,
        foldl_addColumn_addColumn]

/-! ## Unions -/

instance : Std.Associative union where
  assoc left middle right := by
    cases left <;> cases middle <;> cases right <;>
      simp [union, foldl_addColumn_assoc]

instance : Std.IdempotentOp union where
  idempotent scope := by
    cases scope with
    | everyColumn => rfl
    | only columns =>
        exact congrArg only (foldl_addColumn_of_subset (List.Subset.refl _))

/-- A union of scopes extends just as far as its two parts together. -/
def Joins (extent : Scope → Bool) : Prop :=
  ∀ left right, extent (left.union right) = (extent left || extent right)

theorem joins_isWhole : Joins isWhole := isWhole_union

theorem joins_reaches (column : String) : Joins (·.reaches column) :=
  fun left right => reaches_union left right column

theorem any_merge {extent : Scope → Bool} (joins : Joins extent)
    (own more : Option Scope) :
    (Option.merge union own more).any extent =
      (own.any extent || more.any extent) := by
  cases own with
  | none => cases more <;> simp
  | some left =>
      cases more with
      | none => simp
      | some right => exact joins left right

end Scope

namespace Grant

/-! ## Merging -/

theorem ext_scope? {left right : Grant} (grantee : left.grantee = right.grantee)
    (object : left.object = right.object) (grantor : left.grantor = right.grantor)
    (scopes : ∀ privilege, left.scope? privilege = right.scope? privilege) :
    left = right := by
  cases left
  cases right
  cases grantee
  cases object
  cases grantor
  exact congrArg (Grant.mk _ _ · _) (scopes_ext scopes)

theorem merge_assoc (own more further : Grant) :
    (own.merge more).merge further = own.merge (more.merge further) := by
  refine ext_scope? (by simp) (by simp) (by simp) fun privilege => ?_
  simp only [scope?_merge]
  exact Std.Associative.assoc _ _ _

theorem merge_self (own : Grant) : own.merge own = own := by
  refine ext_scope? (by simp) (by simp) (by simp) fun privilege => ?_
  rw [scope?_merge]
  exact Std.IdempotentOp.idempotent _

/-- The privileges of a grant can be merged into another one in any order. -/
theorem foldl_widen_of_perm {entries : List (Privilege × Scope)} {more : Grant}
    (listed : entries.Perm more.scopes.toList) (own : Grant) :
    entries.foldl widen own = own.merge more := by
  obtain ⟨grantee, object, grantor⟩ := foldl_widen_place entries own
  refine ext_scope? (by simp [grantee]) (by simp [object]) (by simp [grantor])
    fun privilege => ?_
  rw [scope?_foldl_widen_of_perm listed, scope?_merge]

/-! ## Coverage -/

theorem holds_of_reaches {grant : Grant} {privilege : Privilege}
    {column : String} (reached : grant.reaches privilege column = true) :
    grant.holds privilege = true := by
  unfold reaches at reached
  unfold holds
  cases scope : grant.scope? privilege with
  | none => simp [scope] at reached
  | some reach => rfl

theorem covers_some (grant : Grant) (privilege : Privilege)
    (columns : List String) :
    grant.covers privilege (some columns) =
      (grant.holds privilege && columns.all (grant.reaches privilege)) := by
  unfold covers holds reaches
  cases grant.scope? privilege <;> simp

theorem holds_merge (own more : Grant) (privilege : Privilege) :
    (own.merge more).holds privilege =
      (own.holds privilege || more.holds privilege) := by
  simp [holds, scope?_merge]

theorem covers_none_merge (own more : Grant) (privilege : Privilege) :
    (own.merge more).covers privilege none =
      (own.covers privilege none || more.covers privilege none) := by
  simp only [covers, scope?_merge]
  exact Scope.any_merge Scope.joins_isWhole _ _

theorem reaches_merge (own more : Grant) (privilege : Privilege)
    (column : String) :
    (own.merge more).reaches privilege column =
      (own.reaches privilege column || more.reaches privilege column) := by
  simp only [reaches, scope?_merge]
  exact Scope.any_merge (Scope.joins_reaches column) _ _

/-- Which of two grants is merged into the other makes no difference to what
the merged one covers. -/
theorem covers_merge_comm (own more : Grant) (privilege : Privilege)
    (columns : Option (List String)) :
    (own.merge more).covers privilege columns =
      (more.merge own).covers privilege columns := by
  cases columns with
  | none => simp only [covers_none_merge, Bool.or_comm]
  | some columns =>
      have reached : (own.merge more).reaches privilege =
          (more.merge own).reaches privilege := by
        funext column
        simp only [reaches_merge, Bool.or_comm]
      rw [covers_some, covers_some, reached, holds_merge, holds_merge,
        Bool.or_comm]

/-- A grant covers whatever another one covers. -/
def Within (own upper : Grant) : Prop :=
  ∀ privilege columns, own.covers privilege columns = true →
    upper.covers privilege columns = true

theorem within_iff {own upper : Grant} :
    own.Within upper ↔ ∀ privilege,
      (own.covers privilege none = true → upper.covers privilege none = true) ∧
      (own.holds privilege = true → upper.holds privilege = true) ∧
      ∀ column, own.reaches privilege column = true →
        upper.reaches privilege column = true := by
  constructor
  · intro within privilege
    refine ⟨within privilege none, ?_, ?_⟩
    · intro held
      simpa [covers_some] using
        within privilege (some []) (by simp [covers_some, held])
    · intro column reached
      have covered := within privilege (some [column])
        (by simp [covers_some, reached, holds_of_reaches reached])
      simp only [covers_some, List.all_cons, List.all_nil, Bool.and_true,
        Bool.and_eq_true] at covered
      exact covered.2
  · intro included privilege columns covered
    obtain ⟨whole, held, reached⟩ := included privilege
    cases columns with
    | none => exact whole covered
    | some columns =>
        simp only [covers_some, Bool.and_eq_true, List.all_eq_true] at covered ⊢
        exact ⟨held covered.1,
          fun column listed => reached column (covered.2 column listed)⟩

/-- The merged grant is the least one that covers as much as either. -/
theorem merge_within_iff {own more upper : Grant} :
    (own.merge more).Within upper ↔ own.Within upper ∧ more.Within upper := by
  simp only [within_iff, covers_none_merge, holds_merge, reaches_merge,
    Bool.or_eq_true, or_imp, forall_and]
  constructor
  · intro included
    obtain ⟨⟨wholeOwn, wholeMore⟩, ⟨heldOwn, heldMore⟩, ownReached,
      moreReached⟩ := included
    exact ⟨⟨wholeOwn, heldOwn, ownReached⟩, wholeMore, heldMore, moreReached⟩
  · intro both
    obtain ⟨⟨wholeOwn, heldOwn, ownReached⟩, wholeMore, heldMore,
      moreReached⟩ := both
    exact ⟨⟨wholeOwn, wholeMore⟩, ⟨heldOwn, heldMore⟩, ownReached,
      moreReached⟩

/-- Merging is associative and idempotent to the letter, in whatever order the
privileges of the merged grant are taken.  What the merged grant covers is the
least upper bound of what the two cover, so it is the same the other way
round. -/
structure MergeLaws : Prop where
  associative : ∀ own more further : Grant,
    (own.merge more).merge further = own.merge (more.merge further)
  idempotent : ∀ own : Grant, own.merge own = own
  inAnyOrder : ∀ (own more : Grant) (entries : List (Privilege × Scope)),
    entries.Perm more.scopes.toList → entries.foldl widen own = own.merge more
  coversEither : ∀ (own more : Grant) (privilege : Privilege),
    (own.merge more).covers privilege none =
        (own.covers privilege none || more.covers privilege none) ∧
      (∀ column, (own.merge more).reaches privilege column =
        (own.reaches privilege column || more.reaches privilege column)) ∧
      (own.merge more).holds privilege =
        (own.holds privilege || more.holds privilege)
  least : ∀ own more upper : Grant,
    (own.merge more).Within upper ↔ own.Within upper ∧ more.Within upper
  commutative : ∀ (own more : Grant) (privilege : Privilege)
    (columns : Option (List String)),
    (own.merge more).covers privilege columns =
      (more.merge own).covers privilege columns

theorem mergeLaws : MergeLaws where
  associative := merge_assoc
  idempotent := merge_self
  inAnyOrder own _ _ listed := foldl_widen_of_perm listed own
  coversEither own more privilege :=
    ⟨covers_none_merge own more privilege, reaches_merge own more privilege,
      holds_merge own more privilege⟩
  least _ _ _ := merge_within_iff
  commutative := covers_merge_comm

end Grant

end SqlAdmission
