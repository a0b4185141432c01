import SqlAdmission.Proofs.CatalogConsistency
import SqlAdmission.Proofs.GrantHistory

/-!
# Changes of a decision

What a single change can do to a decision.  An admission ends only when its
target is dropped, or when the privilege it takes is revoked from a grantee who
counts for the user.  A denial is lifted only by a grant of that privilege on
the target to such a grantee.  A grant widens what is stored and nothing else
narrows it, and rows under a number that has been given out stay as they are
until they are dropped.
-/

namespace SqlAdmission

/-- The extents in which scopes must be stored for an access: an unrestricted
one, or one for each column. -/
def Access.extents (mode : Access) : List (Scope → Bool) :=
  match mode.columns with
  | none => [Scope.isWhole]
  | some columns => columns.map fun column scope => scope.reaches column

theorem Access.extents_join {mode : Access} {extent : Scope → Bool}
    (member : extent ∈ mode.extents) : Scope.Joins extent := by
  unfold extents at member
  cases columns : mode.columns with
  | none =>
      rw [columns] at member
      obtain rfl := List.mem_singleton.mp member
      exact Scope.joins_isWhole
  | some listed =>
      rw [columns] at member
      obtain ⟨column, -, rfl⟩ := List.mem_map.mp member
      exact Scope.joins_reaches column

/-- The changes by which an admission of a requirement can end. -/
def CatalogChange.Withdraws (change : CatalogChange) (statement : Statement) :
    Requirement → Prop
  | .access object mode =>
    change = .dropObject object ∨
      ∃ grantee, statement.Heeds grantee ∧
        change = .revoke object grantee mode.privilege
  | .ownership schema => change = .dropSchema schema

/-- The changes by which a denial of a requirement can be lifted.  The
ownership of a schema is not granted. -/
def CatalogChange.Bestows (change : CatalogChange) (statement : Statement) :
    Requirement → Prop
  | .access object mode =>
    ∃ grant, change = .grant grant ∧ grant.object = object ∧
      statement.Heeds grant.grantee ∧ grant.holds mode.privilege = true
  | .ownership _ => False

namespace Catalog

variable {catalog after : Catalog} {change : CatalogChange}
  {result : Except CatalogError (Option UInt64)} {statement : Statement}

theorem Filed.coverage_eq_complete_iff (filed : catalog.Filed)
    {object : ObjectId} {mode : Access} :
    mode.coverage (statement.applicable catalog.find? object) = .complete ↔
      ∀ extent ∈ mode.extents,
        catalog.Conveys statement object mode.privilege extent := by
  rw [Access.coverage_eq_complete_iff]
  unfold Access.extents
  cases mode.columns with
  | none => simp [← filed.exists_applicable_iff_conveys, Scope.any_isWhole_iff]
  | some columns => simp [← filed.exists_applicable_iff_conveys, Grant.reaches]

/-! ## Stored scopes -/

/-- As long as an object lives, what is conveyed on it is lost only by a
revocation from a grantee who counts. -/
theorem Step.conveys_lost (step : Step catalog change result after)
    {object : ObjectId} (live : after.Live object) {privilege : Privilege}
    {extent : Scope → Bool}
    (joins : Scope.Joins extent)
    (conveyed : catalog.Conveys statement object privilege extent)
    (lost : ¬after.Conveys statement object privilege extent) :
    ∃ grantee, statement.Heeds grantee ∧
      change = .revoke object grantee privilege := by
  obtain ⟨grantee, heeded, reaching⟩ := conveyed
  rcases step.scope?_cases live grantee privilege with
    ⟨added, -, -, -, joined⟩ | ⟨revoked, -⟩ | ⟨-, -, same⟩
  · refine (lost ⟨grantee, heeded, ?_⟩).elim
    rw [joined, Scope.any_merge joins, reaching, Bool.true_or]
  · exact ⟨grantee, heeded, revoked⟩
  · refine (lost ⟨grantee, heeded, ?_⟩).elim
    rw [same]
    exact reaching

/-- As long as an object lives, more is conveyed on it only by a grant to a
grantee who counts. -/
theorem Step.conveys_gained (step : Step catalog change result after)
    {object : ObjectId} (live : after.Live object) {privilege : Privilege}
    {extent : Scope → Bool}
    (joins : Scope.Joins extent)
    (missing : ¬catalog.Conveys statement object privilege extent)
    (conveyed : after.Conveys statement object privilege extent) :
    ∃ grant, change = .grant grant ∧ grant.object = object ∧
      statement.Heeds grant.grantee ∧ grant.holds privilege = true := by
  obtain ⟨grantee, heeded, reaching⟩ := conveyed
  have before :
      (catalog.scope? object grantee privilege).any extent ≠ true := by
    intro reached
    exact missing ⟨grantee, heeded, reached⟩
  rcases step.scope?_cases live grantee privilege with
    ⟨added, rfl, -, key, joined⟩ | ⟨-, removed⟩ | ⟨-, -, same⟩
  · rw [joined, Scope.any_merge joins, Bool.or_eq_true] at reaching
    have carried := reaching.resolve_left before
    have holds : added.holds privilege = true := by
      cases scope : added.scope? privilege with
      | none => simp [scope] at carried
      | some reach => simp [Grant.holds, scope]
    obtain ⟨rfl, rfl⟩ := GrantKey.mk.inj key
    exact ⟨added, rfl, rfl, heeded, holds⟩
  · simp [removed] at reaching
  · rw [same] at reaching
    exact (before reaching).elim

/-! ## Decisions -/

variable {artifacts : ArtifactStore} {forGrant : Bool}

/-- What the stores decide on a requirement. -/
def ruling (catalog : Catalog) (artifacts : ArtifactStore)
    (statement : Statement) (requirement : Requirement) (forGrant : Bool) :
    Except Rejection Unit :=
  ({ catalog, artifacts } : Stores).settle
    (statement.check requirement forGrant)

/-- An access by a user who does not own the database, to a target of a fitting
kind in a schema that resolves: the grants that count decide it. -/
structure Disputed (catalog : Catalog) (statement : Statement)
    (object : ObjectId) (mode : Access) (row : ObjectRow) (home : SchemaRow) :
    Prop where
  found : catalog.find? (.object object) = some row
  accepted : mode.accepts row.kind = true
  housed : catalog.find? (.schema row.schema) = some home
  notOwner : statement.byOwner = false

/-- Only a disputed access is denied, for what the grants that count lack. -/
theorem disputed_of_denied {object : ObjectId} {mode : Access}
    {denial : Denial}
    (denied : catalog.ruling artifacts statement (.access object mode)
      forGrant = .error (.permissionDenied denial)) :
    ∃ row home, catalog.Disputed statement object mode row home ∧
      mode.coverage (statement.applicable catalog.find? object) =
        .lacking denial.columns ∧
      denial = statement.withheld row home mode denial.columns forGrant := by
  have resolved : ∃ row, catalog.find? (.object object) = some row ∧
      mode.accepts row.kind = true := by
    by_contra unresolved
    rw [ruling, Stores.settle_check_access_of_unfit unresolved] at denied
    cases denied
  obtain ⟨row, found, accepted⟩ := resolved
  rw [ruling, Stores.settle_eq,
    Statement.settle_check_access_of_fit (fun _ => rfl) found accepted] at denied
  by_cases owner : statement.byOwner = true
  · rw [if_pos owner] at denied
    cases denied
  · rw [if_neg owner] at denied
    cases coverage : mode.coverage
        (statement.applicable catalog.find? object) with
    | complete =>
        simp only [coverage] at denied
        cases denied
    | lacking missing =>
        simp only [coverage, Statement.refusal] at denied
        cases housed : catalog.find? (.schema row.schema) with
        | none =>
            simp only [housed] at denied
            cases denied
        | some home =>
            simp only [housed] at denied
            cases denied
            exact ⟨row, home,
              ⟨found, accepted, housed, Bool.eq_false_iff.mpr owner⟩,
              rfl, rfl⟩

theorem Consistent.access_lost (consistent : catalog.Consistent)
    (room : catalog.HasRoomFor result)
    (step : Step catalog change result after) {object : ObjectId}
    {mode : Access}
    (admitted :
      catalog.ruling artifacts statement (.access object mode) forGrant =
        .ok ())
    (refused :
      after.ruling artifacts statement (.access object mode) forGrant ≠
        .ok ()) :
    change.Withdraws statement (.access object mode) := by
  unfold ruling at admitted refused
  rw [ne_eq, Stores.settle_check_access_iff] at refused
  obtain ⟨row, found, accepted, holding⟩ :=
    Stores.settle_check_access_iff.mp admitted
  rcases step.find?_of_given room (.object object) (by simp [Lookup.kind])
    (consistent.objectGiven found) with same | ⟨dropped, -, -⟩
  · have kept : after.find? (.object object) = some row := same.trans found
    rcases holding with owner | covered
    · exact (refused ⟨row, kept, accepted, .inl owner⟩).elim
    · have uncovered : ¬∀ extent ∈ mode.extents,
          after.Conveys statement object mode.privilege extent := by
        intro covering
        refine refused ⟨row, kept, accepted, .inr ?_⟩
        exact (consistent.step room step).filed.coverage_eq_complete_iff.mpr
          covering
      rw [consistent.filed.coverage_eq_complete_iff] at covered
      push Not at uncovered
      obtain ⟨extent, member, lost⟩ := uncovered
      exact .inr (step.conveys_lost ⟨row, kept⟩ (Access.extents_join member)
        (covered extent member) lost)
  · exact .inl (CatalogChange.drops_object_iff.mp dropped)

theorem Consistent.access_gained (consistent : catalog.Consistent)
    (room : catalog.HasRoomFor result)
    (step : Step catalog change result after) {object : ObjectId}
    {mode : Access} {denial : Denial}
    (denied :
      catalog.ruling artifacts statement (.access object mode) forGrant =
        .error (.permissionDenied denial))
    (admitted :
      after.ruling artifacts statement (.access object mode) forGrant =
        .ok ()) :
    change.Bestows statement (.access object mode) := by
  rw [ruling] at admitted
  obtain ⟨row, found, -, holding⟩ := Stores.settle_check_access_iff.mp admitted
  obtain ⟨_, _, disputed, lacking, -⟩ := disputed_of_denied denied
  have uncovered := (Access.coverage_eq_lacking_iff.mp lacking).1
  rw [ne_eq, consistent.filed.coverage_eq_complete_iff] at uncovered
  have notOwner : statement.byOwner ≠ true := by simp [disputed.notOwner]
  have covered := holding.resolve_left notOwner
  rw [(consistent.step room step).filed.coverage_eq_complete_iff] at covered
  push Not at uncovered
  obtain ⟨extent, member, missing⟩ := uncovered
  exact step.conveys_gained ⟨row, found⟩ (Access.extents_join member) missing
    (covered extent member)

/-- The decision on a schema that exists stays as it is until the schema is
dropped. -/
theorem Consistent.ownership_kept (consistent : catalog.Consistent)
    (room : catalog.HasRoomFor result)
    (step : Step catalog change result after) {schema : SchemaId}
    {home : SchemaRow} (found : catalog.find? (.schema schema) = some home) :
    after.ruling artifacts statement (.ownership schema) forGrant =
        catalog.ruling artifacts statement (.ownership schema) forGrant ∨
      change = .dropSchema schema ∧
        after.ruling artifacts statement (.ownership schema) forGrant =
          .error (.danglingReference "schema" schema.val) := by
  unfold ruling
  rw [Stores.settle_check_ownership, Stores.settle_check_ownership]
  rcases step.find?_of_given room (.schema schema) (by simp [Lookup.kind])
    (consistent.schemaGiven found) with same | ⟨dropped, -, gone⟩
  · left
    rw [same]
  · right
    rw [gone]
    exact ⟨CatalogChange.drops_schema_iff.mp dropped, rfl⟩

theorem exists_schema_of_ruling {schema : SchemaId}
    (resolved :
      catalog.ruling artifacts statement (.ownership schema) forGrant ≠
        .error (.danglingReference "schema" schema.val)) :
    ∃ home, catalog.find? (.schema schema) = some home := by
  cases found : catalog.find? (.schema schema) with
  | some home => exact ⟨home, rfl⟩
  | none =>
      refine (resolved ?_).elim
      rw [ruling, Stores.settle_check_ownership, found]

/-- What a step that takes an admission away must have been. -/
theorem Consistent.ruling_lost (consistent : catalog.Consistent)
    (room : catalog.HasRoomFor result)
    (step : Step catalog change result after) {requirement : Requirement}
    (admitted :
      catalog.ruling artifacts statement requirement forGrant = .ok ())
    (refused :
      after.ruling artifacts statement requirement forGrant ≠ .ok ()) :
    change.Withdraws statement requirement := by
  cases requirement with
  | access object mode => exact consistent.access_lost room step admitted refused
  | ownership schema =>
      obtain ⟨home, found⟩ :=
        exists_schema_of_ruling (by rw [admitted]; simp)
      rcases consistent.ownership_kept room step found with
        same | ⟨dropped, -⟩
      · exact (refused (same.trans admitted)).elim
      · exact dropped

/-- What a step that lifts a denial must have been. -/
theorem Consistent.ruling_gained (consistent : catalog.Consistent)
    (room : catalog.HasRoomFor result)
    (step : Step catalog change result after) {requirement : Requirement}
    {denial : Denial}
    (denied : catalog.ruling artifacts statement requirement forGrant =
      .error (.permissionDenied denial))
    (admitted :
      after.ruling artifacts statement requirement forGrant = .ok ()) :
    change.Bestows statement requirement := by
  cases requirement with
  | access object mode => exact consistent.access_gained room step denied admitted
  | ownership schema =>
      obtain ⟨home, found⟩ := exists_schema_of_ruling (by rw [denied]; simp)
      rcases consistent.ownership_kept room step found with same | ⟨-, gone⟩
      · rw [same, denied] at admitted
        cases admitted
      · rw [gone] at admitted
        cases admitted

end Catalog

open Catalog in
/-- One change of a catalog ends an admission only by dropping its target or by
revoking its privilege from a grantee who counts for the user, and lifts a
denial only by granting the privilege on the target to such a grantee. -/
theorem decision_changed_only_by {history : List CatalogChange}
    {change : CatalogChange}
    (few : (empty.issued (history ++ [change])).length < 2 ^ 64)
    (statement : Statement) (requirement : Requirement) (forGrant : Bool)
    (artifacts : ArtifactStore) :
    let before :=
      (empty.run history).ruling artifacts statement requirement forGrant
    let after := (empty.run (history ++ [change])).ruling artifacts statement
      requirement forGrant
    (before = .ok () → after ≠ .ok () →
        change.Withdraws statement requirement) ∧
      ∀ denial, before = .error (.permissionDenied denial) → after = .ok () →
        change.Bestows statement requirement := by
  intro before after
  have consistent := consistent_run (few_earlier few)
  have room := room_of_few few
  have step := step_apply (empty.run history) change
  have next : after = ((empty.run history).apply change).2.ruling artifacts
      statement requirement forGrant := by
    rw [← run_append_singleton]
  constructor
  · intro admitted refused
    rw [next] at refused
    exact consistent.ruling_lost room step admitted refused
  · intro denial denied admitted
    rw [next] at admitted
    exact consistent.ruling_gained room step denied admitted

/-- A table that everyone may read until that right is taken back. -/
def ordersHidden : List CatalogChange :=
  [.createSchema "APP" "dba", .createObject ⟨1⟩ "ORDERS" .table,
    .grant (Grant.ofPrivileges "PUBLIC" ⟨2⟩ [.select] "dba"),
    .revoke ⟨2⟩ "PUBLIC" .select]

theorem orders_opened_and_hidden :
    let statement : Statement := { txn := ⟨1⟩, user := "clerk" }
    let reads : Requirement := .access ⟨2⟩ (.select (some ["id"]))
    let ruled (count : Nat) :=
      (Catalog.empty.run (ordersHidden.take count)).ruling {} statement reads
        false
    (Catalog.empty.issued ordersHidden).length < 2 ^ 64 ∧
      (∃ denial, ruled 2 = .error (.permissionDenied denial)) ∧
      ruled 3 = .ok () ∧ ruled 4 ≠ .ok () ∧
      (CatalogChange.grant
        (Grant.ofPrivileges "PUBLIC" ⟨2⟩ [.select] "dba")).Bestows
          statement reads ∧
      (CatalogChange.revoke ⟨2⟩ "PUBLIC" .select).Withdraws
        statement reads := by
  intro statement reads ruled
  have fewOpened : (Catalog.empty.issued
      (ordersHidden.take 2 ++ [ordersHidden[2]])).length < 2 ^ 64 := by decide
  have few : (Catalog.empty.issued
      (ordersHidden.take 3 ++ [ordersHidden[3]])).length < 2 ^ 64 := by decide
  have opened := decision_changed_only_by fewOpened statement reads false {}
  have hidden := decision_changed_only_by few statement reads false {}
  have shown : ruled 3 = .ok () := by decide
  have unshown : ruled 4 ≠ .ok () := by decide
  refine ⟨few, ⟨_, rfl⟩, shown, unshown, ?_, ?_⟩
  · exact opened.2 _ rfl shown
  · exact hidden.1 shown unshown

end SqlAdmission
