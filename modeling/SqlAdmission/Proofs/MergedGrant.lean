import SqlAdmission.Proofs.GrantEffect

/-!
# One grant in the place of two

The check weighs the user's own grant and the one to everyone side by side:
columns may be covered by either, the whole object by one of them.  That is what
the single grant decides into which the two merge.  A list of columns never adds
up to the whole object.
-/

namespace SqlAdmission

namespace Grant

theorem covers_some_iff {grant : Grant} {privilege : Privilege}
    {columns : List String} :
    grant.covers privilege (some columns) = true ↔
      grant.holds privilege = true ∧
        ∀ column ∈ columns, grant.reaches privilege column = true := by
  rw [covers_some, Bool.and_eq_true, List.all_eq_true]

theorem covers_some_of_covers_none {grant : Grant} {privilege : Privilege}
    (whole : grant.covers privilege none = true) (columns : List String) :
    grant.covers privilege (some columns) = true := by
  have unrestricted := covers_none_iff.mp whole
  simp [covers_some, holds, reaches, unrestricted]

end Grant

namespace Access

variable {mode : Access}

theorem coverage_merge (mode : Access) (own everyones : Option Grant) :
    mode.coverage (own.toList ++ everyones.toList) =
      mode.coverage (Option.merge Grant.merge own everyones).toList := by
  apply coverage_congr
  intro extent joins
  cases own with
  | none => cases everyones <;> rfl
  | some left =>
      cases everyones with
      | none => rfl
      | some right =>
          simp [Grant.scope?_merge, Scope.any_merge joins]

/-- A single grant covers an access that asks for the whole object or for some
column just as it covers the privilege on those columns. -/
theorem coverage_toList_eq_complete_iff (listed : mode.columns ≠ some [])
    {record : Option Grant} :
    mode.coverage record.toList = .complete ↔
      record.any (·.covers mode.privilege mode.columns) = true := by
  rw [coverage_eq_complete_iff]
  cases columns : mode.columns with
  | none => cases record <;> simp [Grant.covers_none_iff]
  | some touched =>
      obtain ⟨first, rest, rfl⟩ := List.exists_cons_of_ne_nil
        (fun empty => listed (columns.trans (congrArg some empty)))
      cases record with
      | none =>
          apply iff_of_false
          · intro reached
            obtain ⟨grant, member, -⟩ := reached first List.mem_cons_self
            exact List.not_mem_nil member
          · exact nofun
      | some grant =>
          simp only [Option.toList_some, List.mem_singleton, exists_eq_left,
            Option.any_some, Grant.covers_some_iff]
          constructor
          · intro reached
            have firstReached := reached first List.mem_cons_self
            exact ⟨Grant.holds_of_reaches firstReached, reached⟩
          · exact And.right

theorem coverage_select_columns {grants : List Grant}
    (whole : (select none).coverage grants = .complete)
    (columns : List String) :
    (select (some columns)).coverage grants = .complete := by
  obtain ⟨grant, member, unrestricted⟩ := coverage_eq_complete_iff.mp whole
  apply coverage_eq_complete_iff.mpr
  intro column _
  refine ⟨grant, member, ?_⟩
  simp only [privilege] at unrestricted ⊢
  simp [Grant.reaches, unrestricted]

end Access

namespace Statement

variable {statement : Statement}
  {answers : (question : Question) → question.Answer} {object : ObjectId}
  {own everyones : Option Grant}

/-- What the dictionary answers with when it is asked for the grants that count
for a statement: the user's own, and everyone's if that is consulted, each made
on the object. -/
structure Finds (statement : Statement)
    (answers : (question : Question) → question.Answer) (object : ObjectId)
    (own everyones : Option Grant) : Prop where
  ownFound : answers (.lookup statement.txn (.grant object statement.user)) =
    .ok own
  everyonesFound :
    if statement.consultsPublic = true then
      answers (.lookup statement.txn (.grant object publicGrantee)) =
        .ok everyones
    else everyones = none
  filed : ∀ grant ∈ own.toList ++ everyones.toList, grant.object = object

theorem Finds.settle_applicableGrants
    (finds : statement.Finds answers object own everyones) :
    (statement.applicableGrants object).settle answers =
      .ok (own.toList ++ everyones.toList) := by
  have kept : (own.toList ++ everyones.toList).filter (·.object = object) =
      own.toList ++ everyones.toList := by
    apply List.filter_eq_self.mpr
    intro grant member
    exact decide_eq_true (finds.filed grant member)
  have consulting := finds.everyonesFound
  rw [settle_applicableGrants_of_own finds.ownFound]
  by_cases consulted : statement.consultsPublic = true
  · rw [if_pos consulted] at consulting ⊢
    rw [settle_lookup_of_found consulting, Except.map, kept]
  · rw [if_neg consulted] at consulting ⊢
    subst consulting
    rw [Option.toList_none, List.append_nil] at kept ⊢
    rw [kept]

theorem settle_check_select_columns {forGrant : Bool}
    (admitted : (statement.check (.access object (.select none))
      forGrant).settle answers = .ok ()) (columns : List String) :
    (statement.check (.access object (.select (some columns)))
      forGrant).settle answers = .ok () := by
  obtain ⟨row, found, accepted⟩ := target_of_settle_check admitted
  have acceptedToo : (Access.select (some columns)).accepts row.kind = true :=
    accepted
  rw [settle_check_access_eq_ok_iff_of_found found accepted] at admitted
  rw [settle_check_access_eq_ok_iff_of_found found acceptedToo]
  apply admitted.imp_right
  intro covered
  obtain ⟨grants, read, whole⟩ := covered
  exact ⟨grants, read, Access.coverage_select_columns whole columns⟩

end Statement

/-- Grants of the right to read some columns, however many are made, leave the
whole row as forbidden as it was. -/
theorem Catalog.ruling_select_run_grants {catalog : Catalog}
    (reachable : catalog.Reachable) {granted : List Grant}
    (restricted : ∀ added ∈ granted,
      added.scope? .select ≠ some .everyColumn)
    {artifacts : ArtifactStore} {statement : Statement} {object : ObjectId}
    {forGrant : Bool}
    (admitted : (catalog.run (granted.map .grant)).ruling artifacts statement
      (.access object (.select none)) forGrant = .ok ()) :
    catalog.ruling artifacts statement (.access object (.select none))
      forGrant = .ok () := by
  unfold ruling at admitted ⊢
  obtain ⟨row, found, accepted, holding⟩ :=
    Stores.settle_check_access_iff.mp admitted
  rw [find?_run_grants (by simp [Lookup.kind])] at found
  apply Stores.settle_check_access_iff.mpr
  refine ⟨row, found, accepted, holding.imp_right ?_⟩
  rw [(reachable.run _).filed.coverage_eq_complete_iff,
    reachable.filed.coverage_eq_complete_iff]
  intro covered extent member
  obtain rfl : extent = Scope.isWhole := List.mem_singleton.mp member
  apply ((conveys_run_grants_iff Scope.joins_isWhole).mp
    (covered Scope.isWhole member)).resolve_right
  intro contributed
  obtain ⟨added, made, -, -, -, whole⟩ := contributed
  exact restricted added made (Scope.any_isWhole_iff.mp whole)

/-- An access that asks for the whole object or for some column is admitted to a
user who does not own the database exactly when the grant into which the grants
found merge covers it.  Covering a list of columns is holding the privilege and
reaching each of them, so whoever may read whole rows may read any columns, but
no rights to read columns add up to whole rows. -/
theorem admitted_iff_merged_grant_covers
    {answers : (question : Question) → question.Answer} {statement : Statement}
    {object : ObjectId} {row : ObjectRow}
    (found : answers (.lookup statement.txn (.object object)) = .ok (some row))
    (notOwner : statement.byOwner = false) {own everyones : Option Grant}
    (finds : statement.Finds answers object own everyones) (forGrant : Bool) :
    let admits (mode : Access) :=
      (statement.check (.access object mode) forGrant).settle answers = .ok ()
    (∀ mode : Access, mode.accepts row.kind = true → mode.columns ≠ some [] →
      (admits mode ↔
        (Option.merge Grant.merge own everyones).any
          (·.covers mode.privilege mode.columns) = true)) ∧
    (∀ (grant : Grant) (privilege : Privilege) (columns : List String),
      grant.covers privilege (some columns) = true ↔
        grant.holds privilege = true ∧
          ∀ column ∈ columns, grant.reaches privilege column = true) ∧
    (∀ (grant : Grant) (privilege : Privilege),
      grant.covers privilege none = true →
        ∀ columns, grant.covers privilege (some columns) = true) ∧
    (admits (.select none) → ∀ columns, admits (.select (some columns))) ∧
    ((∀ grant ∈ own.toList ++ everyones.toList,
        grant.scope? .select ≠ some .everyColumn) →
      ¬admits (.select none)) ∧
    ∀ catalog : Catalog, catalog.Reachable → ∀ granted : List Grant,
      (∀ added ∈ granted, added.scope? .select ≠ some .everyColumn) →
        ∀ artifacts : ArtifactStore,
          catalog.ruling artifacts statement (.access object (.select none))
              forGrant ≠ .ok () →
            (catalog.run (granted.map .grant)).ruling artifacts statement
              (.access object (.select none)) forGrant ≠ .ok () := by
  intro admits
  have notByOwner : statement.byOwner ≠ true := by simp [notOwner]
  have admits_iff : ∀ mode : Access, mode.accepts row.kind = true →
      (admits mode ↔
        mode.coverage (own.toList ++ everyones.toList) = .complete) := by
    intro mode accepted
    simp only [admits,
      Statement.settle_check_access_eq_ok_iff_of_found found accepted,
      or_iff_right notByOwner, finds.settle_applicableGrants,
      Except.ok.injEq, exists_eq_left']
  refine ⟨?_, fun _ _ _ => Grant.covers_some_iff,
    fun _ _ => Grant.covers_some_of_covers_none,
    Statement.settle_check_select_columns, ?_, ?_⟩
  · intro mode accepted listed
    rw [admits_iff mode accepted, Access.coverage_merge,
      Access.coverage_toList_eq_complete_iff listed]
  · intro restricted admitted
    obtain ⟨target, resolved, accepted⟩ :=
      Statement.target_of_settle_check admitted
    obtain rfl : row = target :=
      Option.some.inj (Except.ok.inj (found.symm.trans resolved))
    obtain ⟨grant, member, whole⟩ := Access.coverage_eq_complete_iff.mp
      ((admits_iff (.select none) accepted).mp admitted)
    exact restricted grant member whole
  · intro catalog reachable granted restricted artifacts refused
    exact mt (Catalog.ruling_select_run_grants reachable restricted) refused

/-- Neither the grant made to `clerk` nor the one to everyone covers both columns,
and the one they merge into does. -/
theorem clerk_updates_by_merged_grant :
    let stores : Stores := { catalog := Catalog.empty.run ordersShared }
    let statement : Statement := { txn := ⟨1⟩, user := "clerk" }
    let own := stores.catalog.find? (.grant ⟨2⟩ statement.user)
    let everyones := stores.catalog.find? (.grant ⟨2⟩ publicGrantee)
    let covers (grant : Grant) := grant.covers .update (some ["total", "id"])
    let admits (mode : Access) :=
      (statement.check (.access ⟨2⟩ mode) false).settle stores.answer = .ok ()
    stores.answer (.lookup statement.txn (.object ⟨2⟩)) =
        .ok (some ⟨⟨2⟩, ⟨1⟩, "ORDERS", .table⟩) ∧
      statement.byOwner = false ∧
      statement.Finds stores.answer ⟨2⟩ own everyones ∧
      own.any covers = false ∧ everyones.any covers = false ∧
      (Option.merge Grant.merge own everyones).any covers = true ∧
      admits (.update ["total", "id"]) ∧ ¬admits (.select none) := by
  intro stores statement own everyones covers admits
  have reachable : stores.catalog.Reachable := ⟨ordersShared, rfl⟩
  have finds : statement.Finds stores.answer ⟨2⟩ own everyones := by
    refine ⟨rfl, rfl, ?_⟩
    intro grant member
    rcases List.mem_append.mp member with found | found
    · exact (reachable.filed (.grant ⟨2⟩ statement.user) grant
        (Option.mem_toList.mp found)).1
    · exact (reachable.filed (.grant ⟨2⟩ publicGrantee) grant
        (Option.mem_toList.mp found)).1
  have found : stores.answer (.lookup statement.txn (.object ⟨2⟩)) =
      .ok (some ⟨⟨2⟩, ⟨1⟩, "ORDERS", .table⟩) := rfl
  have merged : (Option.merge Grant.merge own everyones).any covers = true := by
    decide
  obtain ⟨decided, -, -, -, unread, -⟩ :=
    admitted_iff_merged_grant_covers found rfl finds false
  have listed : (Access.update ["total", "id"]).columns ≠ some [] := by decide
  have updates := (decided (.update ["total", "id"]) rfl listed).mpr merged
  exact ⟨found, rfl, finds, by decide, by decide, merged, updates,
    unread (by decide)⟩

end SqlAdmission
