import SqlAdmission.Proofs.DecisionFrame

/-!
# What grants add

A grant on a live object joins its scopes to those stored for its grantee, and
changes nothing else.  A decision is told by the rows of objects and schemas and
by what the grants that count convey.  So it does not matter in which order
grants are made, not even to how a denial is reported.
-/

namespace SqlAdmission

namespace Catalog

variable {catalog : Catalog} {statement : Statement} {object : ObjectId}
  {privilege : Privilege} {extent : Scope → Bool} {added : Grant}

/-! ## One grant -/

theorem find?_grant {wanted : Lookup} (lasting : wanted.kind ≠ .grant)
    (added : Grant) :
    (catalog.grant added).2.find? wanted = catalog.find? wanted := by
  unfold Catalog.grant
  split
  · cases wanted with
    | grant object grantee => exact (lasting rfl).elim
    | _ => rfl
  · rfl

theorem live_grant_iff {id : ObjectId} :
    (catalog.grant added).2.Live id ↔ catalog.Live id := by
  unfold Live
  rw [find?_grant (by simp [Lookup.kind])]

theorem grant_of_not_live (dead : ¬catalog.Live added.object) :
    (catalog.grant added).2 = catalog := by
  have unknown : added.object ∉ catalog.objects := mt live_iff_mem.mpr dead
  exact congrArg Prod.snd (if_neg unknown)

theorem scope?_grant (live : catalog.Live added.object) (object : ObjectId)
    (grantee : String) (privilege : Privilege) :
    (catalog.grant added).2.scope? object grantee privilege =
      if added.key = ⟨object, grantee⟩ then
        Option.merge Scope.union (catalog.scope? object grantee privilege)
          (added.scope? privilege)
      else catalog.scope? object grantee privilege := by
  have known : added.object ∈ catalog.objects := live_iff_mem.mp live
  have stored : (catalog.grant added).2.find? (.grant object grantee) =
      if added.key = ⟨object, grantee⟩ then
        some ((catalog.find? (.grant object grantee)).elim added
          (·.merge added))
      else catalog.find? (.grant object grantee) := by
    rw [Catalog.grant, if_pos known]
    exact (Step.granted known).find? (.grant object grantee)
  rw [scope?, stored]
  split
  · exact Grant.scope?_added _ added privilege
  · rfl

/-- A grant that is stored for someone who counts for a statement, and carries a
privilege on an object in a scope of some extent. -/
def Contributes (catalog : Catalog) (statement : Statement)
    (object : ObjectId) (privilege : Privilege) (extent : Scope → Bool)
    (added : Grant) : Prop :=
  catalog.Live added.object ∧ added.object = object ∧
    statement.Heeds added.grantee ∧
      (added.scope? privilege).any extent = true

/-- A grant conveys what it contributes besides what was conveyed before. -/
theorem conveys_grant_iff (joins : Scope.Joins extent) :
    (catalog.grant added).2.Conveys statement object privilege extent ↔
      catalog.Conveys statement object privilege extent ∨
        catalog.Contributes statement object privilege extent added := by
  by_cases live : catalog.Live added.object
  · unfold Conveys
    simp only [scope?_grant live]
    constructor
    · intro conveyed
      obtain ⟨grantee, counts, reaching⟩ := conveyed
      split at reaching
      · rename_i key
        obtain ⟨target, rfl⟩ := GrantKey.mk.inj key
        rw [Scope.any_merge joins, Bool.or_eq_true] at reaching
        apply reaching.imp
        · exact fun own => ⟨added.grantee, counts, own⟩
        · exact fun carried => ⟨live, target, counts, carried⟩
      · exact .inl ⟨grantee, counts, reaching⟩
    · intro either
      rcases either with
        ⟨grantee, counts, reaching⟩ | ⟨-, rfl, heeded, carried⟩
      · refine ⟨grantee, counts, ?_⟩
        split
        · rw [Scope.any_merge joins, reaching, Bool.true_or]
        · exact reaching
      · refine ⟨added.grantee, heeded, ?_⟩
        rw [Grant.key, if_pos rfl, Scope.any_merge joins, carried, Bool.or_true]
  · rw [grant_of_not_live live]
    constructor
    · exact Or.inl
    · intro either
      apply either.resolve_right
      intro contributes
      exact live contributes.1

theorem conveys_grant_iff_of_heeded (live : catalog.Live added.object)
    (heeded : statement.Heeds added.grantee) (joins : Scope.Joins extent) :
    (catalog.grant added).2.Conveys statement added.object privilege extent ↔
      catalog.Conveys statement added.object privilege extent ∨
        (added.scope? privilege).any extent = true := by
  rw [conveys_grant_iff joins]
  simp [Contributes, live, heeded]

/-! ## Several grants -/

theorem find?_run_grants {wanted : Lookup} (lasting : wanted.kind ≠ .grant)
    (granted : List Grant) :
    (catalog.run (granted.map .grant)).find? wanted = catalog.find? wanted := by
  induction granted generalizing catalog with
  | nil => rfl
  | cons first rest induction =>
      exact induction.trans (find?_grant lasting first)

/-- What grants convey after one another is what was conveyed before, and what
any of them contributes. -/
theorem conveys_run_grants_iff (joins : Scope.Joins extent)
    {granted : List Grant} :
    (catalog.run (granted.map .grant)).Conveys statement object privilege
        extent ↔
      catalog.Conveys statement object privilege extent ∨
        ∃ added ∈ granted,
          catalog.Contributes statement object privilege extent added := by
  induction granted generalizing catalog with
  | nil => simp
  | cons first rest induction =>
      have next : (catalog.run ((first :: rest).map .grant)).Conveys statement
            object privilege extent ↔
          (catalog.grant first).2.Conveys statement object privilege extent ∨
            ∃ added ∈ rest, (catalog.grant first).2.Contributes statement
              object privilege extent added :=
        induction
      rw [next, conveys_grant_iff joins, or_assoc, List.exists_mem_cons_iff]
      simp only [Contributes, live_grant_iff]

/-! ## Decisions -/

/-- Two catalogs tell a statement the same: all rows but grants, and what the
grants that count convey. -/
structure AgreesFor (statement : Statement) (left right : Catalog) : Prop where
  rows : ∀ wanted : Lookup, wanted.kind ≠ .grant →
    left.find? wanted = right.find? wanted
  conveyed : ∀ object privilege extent, Scope.Joins extent →
    (left.Conveys statement object privilege extent ↔
      right.Conveys statement object privilege extent)

theorem Filed.any_applicable_iff (filed : catalog.Filed) :
    (statement.applicable catalog.find? object).any
        (fun grant => (grant.scope? privilege).any extent) = true ↔
      catalog.Conveys statement object privilege extent := by
  rw [List.any_eq_true]
  exact filed.exists_applicable_iff_conveys

end Catalog

theorem Access.coverage_congr {mode : Access} {left right : List Grant}
    (same : ∀ extent, Scope.Joins extent →
      left.any (fun grant => (grant.scope? mode.privilege).any extent) =
        right.any fun grant => (grant.scope? mode.privilege).any extent) :
    mode.coverage left = mode.coverage right := by
  have whole : left.any (·.covers mode.privilege none) =
      right.any (·.covers mode.privilege none) :=
    same Scope.isWhole Scope.joins_isWhole
  have reached : ∀ column, left.any (·.reaches mode.privilege column) =
      right.any (·.reaches mode.privilege column) :=
    fun column => same (·.reaches column) (Scope.joins_reaches column)
  unfold coverage uncoveredColumns
  simp only [whole, reached]

namespace Catalog

variable {statement : Statement} {left right : Catalog}

namespace AgreesFor

theorem coverage_eq (agrees : AgreesFor statement left right)
    (leftFiled : left.Filed) (rightFiled : right.Filed) (object : ObjectId)
    (mode : Access) :
    mode.coverage (statement.applicable left.find? object) =
      mode.coverage (statement.applicable right.find? object) := by
  apply Access.coverage_congr
  intro extent joins
  rw [Bool.eq_iff_iff, leftFiled.any_applicable_iff,
    rightFiled.any_applicable_iff]
  exact agrees.conveyed object mode.privilege extent joins

theorem refusal_eq (agrees : AgreesFor statement left right) (row : ObjectRow)
    (mode : Access) (missing : Option (List String)) (forGrant : Bool) :
    statement.refusal left.find? row mode missing forGrant =
      statement.refusal right.find? row mode missing forGrant := by
  unfold Statement.refusal
  rw [agrees.rows (.schema row.schema) (by simp [Lookup.kind])]

/-- What tells a statement the same has the same requirements admitted, and the
others rejected with the same diagnostic. -/
theorem ruling_eq (agrees : AgreesFor statement left right)
    (leftFiled : left.Filed) (rightFiled : right.Filed)
    (artifacts : ArtifactStore) (requirement : Requirement)
    (forGrant : Bool) :
    left.ruling artifacts statement requirement forGrant =
      right.ruling artifacts statement requirement forGrant := by
  unfold ruling
  cases requirement with
  | ownership schema =>
      have same := agrees.rows (.schema schema) (by simp [Lookup.kind])
      rw [Stores.settle_check_ownership, Stores.settle_check_ownership, same]
  | access object mode =>
      have same := agrees.rows (.object object) (by simp [Lookup.kind])
      by_cases fit : ∃ row, left.find? (.object object) = some row ∧
          mode.accepts row.kind = true
      · obtain ⟨row, found, accepted⟩ := fit
        rw [Stores.settle_eq, Stores.settle_eq,
          Statement.settle_check_access_of_fit (fun _ => rfl) found accepted,
          Statement.settle_check_access_of_fit (fun _ => rfl)
            (same.symm.trans found) accepted,
          agrees.coverage_eq leftFiled rightFiled]
        simp only [agrees.refusal_eq]
      · rw [Stores.settle_check_access_of_unfit fit]
        rw [same] at fit
        rw [Stores.settle_check_access_of_unfit fit]

end AgreesFor

theorem agreesFor_run_grants {catalog : Catalog} {granted shuffled : List Grant}
    (same : granted.Perm shuffled) (statement : Statement) :
    AgreesFor statement (catalog.run (granted.map .grant))
      (catalog.run (shuffled.map .grant)) where
  rows wanted lasting := by
    rw [find?_run_grants lasting, find?_run_grants lasting]
  conveyed object privilege extent joins := by
    simp only [conveys_run_grants_iff joins, same.mem_iff]

end Catalog

/-- Merging joins grants.  Grants that are made on a catalog one after the other
may therefore be made in any order: every requirement is decided the same way
and with the same diagnostic. -/
theorem grants_join_in_any_order :
    Grant.MergeLaws ∧
      ∀ {catalog : Catalog}, catalog.Reachable →
        ∀ {granted shuffled : List Grant}, granted.Perm shuffled →
          ∀ artifacts statement requirement forGrant,
            (catalog.run (granted.map .grant)).ruling artifacts statement
                requirement forGrant =
              (catalog.run (shuffled.map .grant)).ruling artifacts statement
                requirement forGrant := by
  refine ⟨Grant.mergeLaws, ?_⟩
  intro catalog reachable granted shuffled same artifacts statement requirement
    forGrant
  apply (Catalog.agreesFor_run_grants same statement).ruling_eq
  · exact (reachable.run _).filed
  · exact (reachable.run _).filed

/-- Grants on a table that name one of its columns more than once. -/
def ordersGranted : List Grant :=
  let updates (grantee : String) (columns : List String) : Grant :=
    (Grant.ofPrivileges grantee ⟨2⟩ [.update] "dba").restrictTo columns
  [updates "clerk" ["id", "id"], updates "PUBLIC" ["paid"],
    updates "clerk" ["total", "id"]]

/-- The columns are stored in another order, and the same one is missing. -/
theorem clerk_lacks_note_either_way :
    let catalog := Catalog.empty.run
      [.createSchema "APP" "dba", .createObject ⟨1⟩ "ORDERS" .table]
    let forth := catalog.run (ordersGranted.map .grant)
    let back := catalog.run (ordersGranted.reverse.map .grant)
    let statement : Statement := { txn := ⟨1⟩, user := "clerk" }
    let updates : Requirement :=
      .access ⟨2⟩ (.update ["note", "paid", "id", "total"])
    catalog.Reachable ∧ ordersGranted.Perm ordersGranted.reverse ∧
      forth.scope? ⟨2⟩ "clerk" .update = some (.only ["id", "id", "total"]) ∧
      back.scope? ⟨2⟩ "clerk" .update = some (.only ["total", "id"]) ∧
      forth.ruling {} statement updates false =
        back.ruling {} statement updates false ∧
      back.ruling {} statement updates false =
        .error (.permissionDenied {
          user := "clerk"
          privilege := "UPDATE"
          objectType := "TABLE"
          schema := "APP"
          name := some "ORDERS"
          columns := some ["note"]
          forGrant := false }) := by
  intro catalog forth back statement updates
  have reachable : catalog.Reachable := ⟨_, rfl⟩
  have same : ordersGranted.Perm ordersGranted.reverse :=
    (List.reverse_perm ordersGranted).symm
  have alike :=
    grants_join_in_any_order.2 reachable same {} statement updates false
  exact ⟨reachable, same, by decide, by decide, alike, by decide⟩

end SqlAdmission
