import SqlAdmission.Proofs.CatalogFiling
import SqlAdmission.Proofs.CatalogInvariant
import SqlAdmission.Proofs.GrantJoin
import SqlAdmission.Proofs.Standing

/-!
# Grants in a history

The scope in which a privilege is stored is joined from the grants that were
made in the history of the catalog and not revoked since.  An access is
therefore decided by the active grants of the user and of everyone: none is
lost, widened or brought back by what happens to other privileges, grantees or
objects.
-/

namespace SqlAdmission

namespace Catalog

variable {catalog after : Catalog} {change : CatalogChange}
  {result : Except CatalogError (Option UInt64)}

theorem grant_eq_ok_iff {grant : Grant} :
    (catalog.grant grant).1 = .ok () ↔ catalog.Live grant.object := by
  rw [live_iff_mem]
  unfold Catalog.grant
  by_cases live : grant.object ∈ catalog.objects
  · rw [if_pos live]
    exact iff_of_true rfl live
  · rw [if_neg live]
    exact iff_of_false (by simp) live

/-- The scope in which a privilege on an object is stored for a grantee. -/
def scope? (catalog : Catalog) (object : ObjectId) (grantee : String)
    (privilege : Privilege) : Option Scope :=
  (catalog.find? (.grant object grantee)).bind (·.scope? privilege)

end Catalog

namespace Grant

theorem bind_scope?_filter (stored : Option Grant) (privilege : Privilege) :
    (stored.filter (!·.isEmpty)).bind (·.scope? privilege) =
      stored.bind (·.scope? privilege) := by
  cases stored with
  | none => rfl
  | some grant =>
      rw [Option.filter_some]
      cases empty : grant.isEmpty with
      | false => simp
      | true =>
          have absent := (Grant.isEmpty_iff grant).mp empty privilege
          simp [absent]

/-- What is left of a stored grant after a revocation. -/
theorem bind_scope?_revoked (stored : Option Grant)
    (revoked privilege : Privilege) :
    ((stored.map (·.revoke revoked)).filter (!·.isEmpty)).bind
        (·.scope? privilege) =
      if revoked = privilege then none else stored.bind (·.scope? privilege) := by
  rw [bind_scope?_filter]
  cases stored with
  | none => simp
  | some own => simp [scope?_revoke]

/-- What a stored grant becomes when another one is added. -/
theorem scope?_added (stored : Option Grant) (added : Grant)
    (privilege : Privilege) :
    (stored.elim added (·.merge added)).scope? privilege =
      Option.merge Scope.union (stored.bind (·.scope? privilege))
        (added.scope? privilege) := by
  cases stored with
  | none => cases scope : added.scope? privilege <;> simp [scope]
  | some own => exact scope?_merge own added privilege

end Grant

namespace Catalog

variable {catalog after : Catalog} {change : CatalogChange}
  {result : Except CatalogError (Option UInt64)}

/-- A step joins a stored scope with that of a grant, removes it by a
revocation, or leaves it alone. -/
theorem Step.scope?_cases (step : Step catalog change result after)
    {object : ObjectId} (live : after.Live object) (grantee : String)
    (privilege : Privilege) :
    (∃ added, change = .grant added ∧ catalog.Live added.object ∧
      added.key = ⟨object, grantee⟩ ∧
      after.scope? object grantee privilege =
        Option.merge Scope.union (catalog.scope? object grantee privilege)
          (added.scope? privilege)) ∨
    (change = .revoke object grantee privilege ∧
      after.scope? object grantee privilege = none) ∨
    ((∀ added, change = .grant added → catalog.Live added.object →
        added.key ≠ ⟨object, grantee⟩) ∧
      change ≠ .revoke object grantee privilege ∧
      after.scope? object grantee privilege =
        catalog.scope? object grantee privilege) := by
  simp only [scope?, step.find?]
  cases step with
  | @granted added target =>
      by_cases key : added.key = ⟨object, grantee⟩
      · refine .inl ⟨added, rfl, live_iff_mem.mpr target, key, ?_⟩
        simp only [findAfter, if_pos key]
        exact Grant.scope?_added _ added privilege
      · refine .inr (.inr ⟨?_, by simp, ?_⟩)
        · intro other same _
          cases same
          exact key
        · simp only [findAfter, if_neg key]
  | @revoked target holder gone =>
      by_cases place : target = object ∧ holder = grantee
      · obtain ⟨rfl, rfl⟩ := place
        simp only [findAfter, and_self, if_true, Grant.bind_scope?_revoked]
        by_cases same : gone = privilege
        · subst same
          exact .inr (.inl ⟨rfl, if_pos rfl⟩)
        · exact .inr (.inr ⟨by simp, by simp [same], if_neg same⟩)
      · refine .inr (.inr ⟨by simp, ?_, ?_⟩)
        · intro same
          cases same
          exact place ⟨rfl, rfl⟩
        · simp only [findAfter, if_neg place]
  | @objectDropped dropped present =>
      have other : dropped ≠ object := by
        intro equality
        subst equality
        obtain ⟨row, found⟩ := live
        rw [(Step.objectDropped present).find?] at found
        simp [findAfter] at found
      refine .inr (.inr ⟨by simp, by simp, ?_⟩)
      simp only [findAfter, if_neg other]
  | refused refusal =>
      refine .inr (.inr ⟨?_, ?_, rfl⟩)
      · intro added equality target
        subst equality
        cases refusal with
        | targetUnknown unknown => exact (unknown (live_iff_mem.mp target)).elim
      · intro equality
        subst equality
        cases refusal
  | _ => exact .inr (.inr ⟨by simp, by simp, rfl⟩)

/-- A grant in a history that carries a privilege to a grantee on an object:
it was stored, and the privilege has not been revoked since. -/
def ActiveGrant (history : List CatalogChange) (object : ObjectId)
    (grantee : String) (privilege : Privilege) (grant : Grant) : Prop :=
  Standing
    (fun earlier change => change = .grant grant ∧
      ((empty.run earlier).grant grant).1 = .ok () ∧
        grant.object = object ∧ grant.grantee = grantee ∧
          grant.holds privilege = true)
    (· = .revoke object grantee privilege) history

theorem activeGrant_append_singleton_iff {history : List CatalogChange}
    {last : CatalogChange} {object : ObjectId} {grantee : String}
    {privilege : Privilege} {grant : Grant} :
    ActiveGrant (history ++ [last]) object grantee privilege grant ↔
      (last = .grant grant ∧ (empty.run history).Live grant.object ∧
        grant.key = ⟨object, grantee⟩ ∧ grant.holds privilege = true) ∨
      ActiveGrant history object grantee privilege grant ∧
        last ≠ .revoke object grantee privilege := by
  unfold ActiveGrant
  rw [standing_append_singleton_iff]
  simp only [grant_eq_ok_iff, Grant.key, GrantKey.mk.injEq, and_assoc]

/-- Only an object that has been created is ever granted on. -/
theorem activeGrant_issued {history : List CatalogChange}
    (few : (empty.issued history).length < 2 ^ 64) {object : ObjectId}
    {grantee : String} {privilege : Privilege} {grant : Grant}
    (active : ActiveGrant history object grantee privilege grant) :
    object.val.toNat ≤ (empty.run history).lastId.toNat := by
  obtain ⟨earlier, change, later, rfl, ⟨-, stored, rfl, -⟩, -⟩ := active
  have bounded := (sound_run (few_earlier few)).objectIssued
    (grant_eq_ok_iff.mp stored)
  exact Nat.le_trans bounded (lastId_run_mono few)

/-- An identifier that is still to be given out has neither scopes nor
grants. -/
theorem unused_nextId {history : List CatalogChange}
    (few : (empty.issued history).length < 2 ^ 64)
    (room : (empty.run history).lastId.toNat + 1 < 2 ^ 64)
    (grantee : String) (privilege : Privilege) :
    (empty.run history).scope? ⟨(empty.run history).nextId⟩ grantee privilege =
        none ∧
      ∀ grant, ¬ActiveGrant history ⟨(empty.run history).nextId⟩ grantee
        privilege grant := by
  have sound := sound_run few
  constructor
  · cases found : (empty.run history).find?
        (.grant ⟨(empty.run history).nextId⟩ grantee) with
    | none => simp [scope?, found]
    | some grant => exact (sound.fresh room (sound.grantLive found)).elim
  · intro grant active
    have issued := activeGrant_issued few active
    rw [toNat_nextId room] at issued
    omega

/-- What is stored of a privilege has an extent exactly when one of the active
grants has it. -/
def Accounted (extent : Scope → Bool) (history : List CatalogChange)
    (object : ObjectId) (grantee : String) (privilege : Privilege) : Prop :=
  ((empty.run history).scope? object grantee privilege).any extent = true ↔
    ∃ grant, ActiveGrant history object grantee privilege grant ∧
      (grant.scope? privilege).any extent = true

theorem Accounted.step {extent : Scope → Bool}
    (joins : Scope.Joins extent)
    {history : List CatalogChange} {last : CatalogChange} {object : ObjectId}
    {grantee : String} {privilege : Privilege}
    (accounted : Accounted extent history object grantee privilege)
    (live : (empty.run (history ++ [last])).Live object) :
    Accounted extent (history ++ [last]) object grantee privilege := by
  have step := step_apply (empty.run history) last
  unfold Accounted at accounted ⊢
  rw [run_append_singleton] at live ⊢
  simp only [activeGrant_append_singleton_iff]
  rcases step.scope?_cases live grantee privilege with
    ⟨added, rfl, target, key, joined⟩ | ⟨rfl, removed⟩ |
      ⟨foreign, unrevoked, same⟩
  · rw [joined, Scope.any_merge joins, Bool.or_eq_true, accounted]
    constructor
    · intro either
      rcases either with ⟨grant, active, reaching⟩ | reaching
      · exact ⟨grant, .inr ⟨active, by simp⟩, reaching⟩
      · have holds : added.holds privilege = true := by
          cases scope : added.scope? privilege with
          | none => simp [scope] at reaching
          | some reach => simp [Grant.holds, scope]
        exact ⟨added, .inl ⟨rfl, target, key, holds⟩, reaching⟩
    · intro covered
      rcases covered with ⟨grant, ⟨same, -⟩ | ⟨active, -⟩, reaching⟩
      · cases same
        exact .inr reaching
      · exact .inl ⟨grant, active, reaching⟩
  · rw [removed]
    simp
  · rw [same, accounted]
    constructor
    · intro covered
      obtain ⟨grant, active, reaching⟩ := covered
      exact ⟨grant, .inr ⟨active, unrevoked⟩, reaching⟩
    · intro covered
      rcases covered with
        ⟨grant, ⟨made, target, key, -⟩ | ⟨active, -⟩, reaching⟩
      · exact (foreign grant made target key).elim
      · exact ⟨grant, active, reaching⟩

/-- However the extent of a scope is measured, as long as a union reaches just
as far as its two parts together, every live object is accounted for. -/
theorem accounted_run {extent : Scope → Bool}
    (joins : Scope.Joins extent)
    {history : List CatalogChange}
    (few : (empty.issued history).length < 2 ^ 64) {object : ObjectId}
    (live : (empty.run history).Live object) (grantee : String)
    (privilege : Privilege) :
    Accounted extent history object grantee privilege := by
  induction history using List.reverseRecOn with
  | nil =>
      obtain ⟨row, found⟩ := live
      simp at found
  | append_singleton history last induction =>
      refine Accounted.step joins ?_ live
      have step := step_apply (empty.run history) last
      rw [run_append_singleton] at live
      rcases step.live_cases live with old | ⟨rfl, given⟩
      · exact induction (few_earlier few) old
      · -- A new object starts without scopes, and no grant names it yet.
        obtain ⟨unscoped, ungranted⟩ := unused_nextId (few_earlier few)
          (room_of_few few (by simp [given])) grantee privilege
        simp [Accounted, unscoped, ungranted]

/-- A privilege is stored in a scope of some extent for a grantee who counts for
a statement. -/
def Conveys (catalog : Catalog) (statement : Statement) (object : ObjectId)
    (privilege : Privilege) (extent : Scope → Bool) : Prop :=
  ∃ grantee, statement.Heeds grantee ∧
    (catalog.scope? object grantee privilege).any extent = true

theorem Filed.exists_applicable_iff_conveys (filed : catalog.Filed)
    {statement : Statement} {object : ObjectId} {privilege : Privilege}
    {extent : Scope → Bool} :
    (∃ grant ∈ statement.applicable catalog.find? object,
        (grant.scope? privilege).any extent = true) ↔
      catalog.Conveys statement object privilege extent := by
  simp only [filed.mem_applicable_iff]
  constructor
  · intro covering
    obtain ⟨grant, ⟨grantee, heeded, found⟩, reaching⟩ := covering
    exact ⟨grantee, heeded, by simpa [scope?, found] using reaching⟩
  · intro conveyed
    obtain ⟨grantee, heeded, reaching⟩ := conveyed
    cases found : catalog.find? (.grant object grantee) with
    | none => simp [scope?, found] at reaching
    | some grant =>
        refine ⟨grant, ⟨grantee, heeded, found⟩, ?_⟩
        simpa [scope?, found] using reaching

/-- A grant that counts for a statement is found exactly where an active one
was made. -/
theorem exists_applicable_iff_active {extent : Scope → Bool}
    (joins : Scope.Joins extent)
    {history : List CatalogChange}
    (few : (empty.issued history).length < 2 ^ 64) {object : ObjectId}
    (live : (empty.run history).Live object) (statement : Statement)
    (privilege : Privilege) :
    (∃ grant ∈ statement.applicable (empty.run history).find? object,
        (grant.scope? privilege).any extent = true) ↔
      ∃ grantee grant, statement.Heeds grantee ∧
        ActiveGrant history object grantee privilege grant ∧
          (grant.scope? privilege).any extent = true := by
  have filed : (empty.run history).Filed := Reachable.filed ⟨history, rfl⟩
  have accounted := accounted_run joins few live
  rw [filed.exists_applicable_iff_conveys]
  constructor
  · intro conveyed
    obtain ⟨grantee, heeded, reaching⟩ := conveyed
    obtain ⟨grant, active, reached⟩ := (accounted grantee privilege).mp reaching
    exact ⟨grantee, grant, heeded, active, reached⟩
  · intro granted
    obtain ⟨grantee, grant, heeded, active, reached⟩ := granted
    exact ⟨grantee, heeded,
      (accounted grantee privilege).mpr ⟨grant, active, reached⟩⟩

end Catalog

theorem Scope.any_isWhole_iff {scope : Option Scope} :
    scope.any isWhole = true ↔ scope = some .everyColumn := by
  rcases scope with _ | _ | listed <;> simp

theorem Scope.any_reaches_iff {scope : Option Scope} {column : String} :
    scope.any (·.reaches column) = true ↔
      scope = some .everyColumn ∨
        ∃ listed, scope = some (.only listed) ∧ column ∈ listed := by
  rcases scope with _ | _ | listed <;> simp

open Catalog in
/-- An access to a live object is admitted exactly when the active grants of
the user, and of everyone where that is honoured, cover it: the whole object by
one unrestricted grant, columns each by a grant that reaches it. -/
theorem admitted_iff_active_grants {history : List CatalogChange}
    (few : (empty.issued history).length < 2 ^ 64)
    {object : ObjectId} {row : ObjectRow}
    (live : (empty.run history).find? (.object object) = some row)
    {mode : Access} (accepted : mode.accepts row.kind = true)
    {statement : Statement} (notOwner : statement.byOwner = false)
    (forGrant : Bool) (artifacts : ArtifactStore) :
    ({ catalog := empty.run history, artifacts } : Stores).settle
        (statement.check (.access object mode) forGrant) = .ok () ↔
      match mode.columns with
      | none =>
        ∃ grantee grant, statement.Heeds grantee ∧
          ActiveGrant history object grantee mode.privilege grant ∧
            grant.scope? mode.privilege = some .everyColumn
      | some columns =>
        ∀ column ∈ columns, ∃ grantee grant, statement.Heeds grantee ∧
          ActiveGrant history object grantee mode.privilege grant ∧
            (grant.scope? mode.privilege = some .everyColumn ∨
              ∃ listed, grant.scope? mode.privilege = some (.only listed) ∧
                column ∈ listed) := by
  have decided :
      ({ catalog := empty.run history, artifacts } : Stores).settle
          (statement.check (.access object mode) forGrant) = .ok () ↔
        mode.coverage
          (statement.applicable (empty.run history).find? object) =
            .complete := by
    rw [Stores.settle_check_access_iff]
    constructor
    · intro admitted
      rcases admitted with ⟨-, -, -, owner | covered⟩
      · simp [notOwner] at owner
      · exact covered
    · intro covered
      exact ⟨row, live, accepted, .inr covered⟩
  rw [decided, Access.coverage_eq_complete_iff]
  cases mode.columns with
  | none =>
      simp only [← Scope.any_isWhole_iff]
      exact exists_applicable_iff_active Scope.isWhole_union few ⟨row, live⟩
        statement mode.privilege
  | some columns =>
      simp only [← Scope.any_reaches_iff]
      refine forall₂_congr fun column _ => ?_
      exact exists_applicable_iff_active
        (fun left right => Scope.reaches_union left right column) few
        ⟨row, live⟩ statement mode.privilege

/-- A history in which `clerk` may update one column of a table and everyone
another one, while a right to read has come and gone. -/
def ordersShared : List CatalogChange :=
  [.createSchema "APP" "dba", .createObject ⟨1⟩ "ORDERS" .table,
    .grant ((Grant.ofPrivileges "clerk" ⟨2⟩ [.select, .update]
      "dba").restrictTo ["id"]),
    .grant ((Grant.ofPrivileges "PUBLIC" ⟨2⟩ [.update]
      "dba").restrictTo ["total"]),
    .grant (Grant.ofPrivileges "clerk" ⟨2⟩ [.select] "dba"),
    .revoke ⟨2⟩ "clerk" .select]

theorem clerk_updates_columns_apart :
    let catalog := Catalog.empty.run ordersShared
    let statement : Statement := { txn := ⟨1⟩, user := "clerk" }
    (Catalog.empty.issued ordersShared).length < 2 ^ 64 ∧
      catalog.find? (.object ⟨2⟩) = some ⟨⟨2⟩, ⟨1⟩, "ORDERS", .table⟩ ∧
      (Access.update ["id", "total"]).accepts .table = true ∧
      statement.byOwner = false ∧
      ({ catalog } : Stores).settle
        (statement.check (.access ⟨2⟩ (.update ["id", "total"])) true) =
          .ok () := by
  intro catalog statement
  have few : (Catalog.empty.issued ordersShared).length < 2 ^ 64 := by decide
  have live : catalog.find? (.object ⟨2⟩) =
      some ⟨⟨2⟩, ⟨1⟩, "ORDERS", .table⟩ := by
    decide
  have own : Catalog.ActiveGrant ordersShared ⟨2⟩ "clerk" .update
      ((Grant.ofPrivileges "clerk" ⟨2⟩ [.select, .update]
        "dba").restrictTo ["id"]) :=
    ⟨ordersShared.take 2, _, ordersShared.drop 3, rfl,
      ⟨rfl, rfl, rfl, rfl, by decide⟩, by simp [ordersShared]⟩
  have everyones : Catalog.ActiveGrant ordersShared ⟨2⟩ "PUBLIC" .update
      ((Grant.ofPrivileges "PUBLIC" ⟨2⟩ [.update]
        "dba").restrictTo ["total"]) :=
    ⟨ordersShared.take 3, _, ordersShared.drop 4, rfl,
      ⟨rfl, rfl, rfl, rfl, by decide⟩, by simp [ordersShared]⟩
  refine ⟨few, live, rfl, rfl, ?_⟩
  rw [admitted_iff_active_grants few live rfl rfl]
  intro column member
  rcases List.mem_cons.mp member with rfl | later
  · exact ⟨"clerk", _, .inl rfl, own, .inr ⟨["id"], by decide, by simp⟩⟩
  · rw [List.mem_singleton.mp later]
    exact ⟨"PUBLIC", _, .inr ⟨rfl, rfl⟩, everyones,
      .inr ⟨["total"], by decide, by simp⟩⟩

end SqlAdmission
