import SqlAdmission.Proofs.GrantEffect

/-!
# What lifts a denial

A grant on a live object adds its scope to what is stored for its grantee, and to
nothing else.  The columns that a denial names are therefore those a grant has to
reach: one that reaches some of them leaves the others denied, and one that
reaches them all admits.  No list of columns makes up for a privilege that is
needed on the whole object.
-/

namespace SqlAdmission

namespace Catalog

variable {catalog : Catalog} {statement : Statement} {object : ObjectId}
  {added : Grant}

theorem Filed.any_reaches_iff (filed : catalog.Filed) {privilege : Privilege}
    {column : String} :
    (statement.applicable catalog.find? object).any
        (·.reaches privilege column) = true ↔
      catalog.Conveys statement object privilege (·.reaches column) :=
  filed.any_applicable_iff

/-- A grant uncovers no column, and covers those it reaches. -/
theorem uncoveredColumns_grant (reachable : catalog.Reachable)
    (live : catalog.Live added.object)
    (heeded : statement.Heeds added.grantee) (privilege : Privilege)
    (columns : List String) :
    uncoveredColumns
        (statement.applicable (catalog.grant added).2.find? added.object)
        privilege columns =
      (uncoveredColumns (statement.applicable catalog.find? added.object)
        privilege columns).filter fun column =>
          !added.reaches privilege column := by
  have filed := reachable.filed
  have filedAfter : (catalog.grant added).2.Filed :=
    (reachable.apply (.grant added)).filed
  unfold uncoveredColumns
  rw [List.filter_filter]
  refine List.filter_congr fun column _ => ?_
  rw [← Bool.not_or, Bool.not_inj_iff, Bool.eq_iff_iff, Bool.or_eq_true,
    filedAfter.any_reaches_iff, filed.any_reaches_iff,
    conveys_grant_iff_of_heeded live heeded (Scope.joins_reaches column)]
  exact Or.comm

variable {mode : Access}

/-- Nothing but an unrestricted grant adds to what covers a whole object. -/
theorem coverage_grant_whole_iff (reachable : catalog.Reachable)
    (live : catalog.Live added.object)
    (heeded : statement.Heeds added.grantee) (whole : mode.columns = none) :
    mode.coverage (statement.applicable (catalog.grant added).2.find?
        added.object) = .complete ↔
      mode.coverage (statement.applicable catalog.find? added.object) =
          .complete ∨
        (added.scope? mode.privilege).any Scope.isWhole = true := by
  have filedAfter : (catalog.grant added).2.Filed :=
    (reachable.apply (.grant added)).filed
  rw [filedAfter.coverage_eq_complete_iff,
    reachable.filed.coverage_eq_complete_iff]
  simp only [Access.extents, whole, List.mem_singleton, forall_eq]
  exact conveys_grant_iff_of_heeded live heeded Scope.joins_isWhole

/-! ## Remedies -/

variable {artifacts : ArtifactStore} {forGrant : Bool}

theorem Disputed.grant {row : ObjectRow} {home : SchemaRow}
    (disputed : catalog.Disputed statement object mode row home)
    (added : Grant) :
    (catalog.grant added).2.Disputed statement object mode row home where
  found := (find?_grant (by simp [Lookup.kind]) added).trans disputed.found
  accepted := disputed.accepted
  housed := (find?_grant (by simp [Lookup.kind]) added).trans disputed.housed
  notOwner := disputed.notOwner

theorem Disputed.ruling_eq {row : ObjectRow} {home : SchemaRow}
    (disputed : catalog.Disputed statement object mode row home) :
    catalog.ruling artifacts statement (.access object mode) forGrant =
      match mode.coverage (statement.applicable catalog.find? object) with
      | .complete => .ok ()
      | .lacking missing =>
        .error (.permissionDenied
          (statement.withheld row home mode missing forGrant)) := by
  unfold ruling
  rw [Stores.settle_eq, Statement.settle_check_access_of_fit (fun _ => rfl)
    disputed.found disputed.accepted, if_neg (by simp [disputed.notOwner])]
  cases mode.coverage (statement.applicable catalog.find? object) with
  | complete => rfl
  | lacking missing =>
      have refused :
          statement.refusal catalog.find? row mode missing forGrant =
            .permissionDenied
              (statement.withheld row home mode missing forGrant) := by
        rw [Statement.refusal, disputed.housed]
      exact congrArg Except.error refused

section Granted

variable {row : ObjectRow} {home : SchemaRow} (added : Grant)

/-- After a grant to someone who counts, those columns stay denied that it does
not reach either. -/
theorem Disputed.ruling_grant_columns
    (disputed : catalog.Disputed statement added.object mode row home)
    (reachable : catalog.Reachable) (heeded : statement.Heeds added.grantee)
    {columns : List String} (asked : mode.columns = some columns) :
    (catalog.grant added).2.ruling artifacts statement
        (.access added.object mode) forGrant =
      let missing :=
        (uncoveredColumns (statement.applicable catalog.find? added.object)
          mode.privilege columns).filter fun column =>
            !added.reaches mode.privilege column
      if missing = [] then .ok ()
      else .error (.permissionDenied
        (statement.withheld row home mode (some missing) forGrant)) := by
  have live : catalog.Live added.object := ⟨row, disputed.found⟩
  rw [(disputed.grant added).ruling_eq, Access.coverage_of_columns asked,
    uncoveredColumns_grant reachable live heeded]
  dsimp only
  generalize List.filter _ _ = missing
  cases missing with
  | nil => rfl
  | cons first rest => rfl

/-- After a grant to someone who counts, a whole object stays denied unless the
grant is unrestricted. -/
theorem Disputed.ruling_grant_whole
    (disputed : catalog.Disputed statement added.object mode row home)
    (reachable : catalog.Reachable) (heeded : statement.Heeds added.grantee)
    (whole : mode.columns = none)
    (incomplete : mode.coverage
      (statement.applicable catalog.find? added.object) ≠ .complete) :
    (catalog.grant added).2.ruling artifacts statement
        (.access added.object mode) forGrant =
      if (added.scope? mode.privilege).any Scope.isWhole then .ok ()
      else .error (.permissionDenied
        (statement.withheld row home mode none forGrant)) := by
  have live : catalog.Live added.object := ⟨row, disputed.found⟩
  have covered := coverage_grant_whole_iff reachable live heeded whole
  rw [or_iff_right incomplete] at covered
  rw [(disputed.grant added).ruling_eq]
  by_cases unrestricted :
      (added.scope? mode.privilege).any Scope.isWhole = true
  · rw [if_pos unrestricted, covered.mpr unrestricted]
  · have lacking := Access.coverage_eq_lacking_iff.mpr
      ⟨mt covered.mp unrestricted, rfl⟩
    rw [whole, Option.map_none] at lacking
    rw [if_neg unrestricted, lacking]

end Granted

end Catalog

open Catalog in
/-- The columns that a denial names are those that must be granted to the user,
and no others: a grant on some columns admits if it lists them all, and else
leaves those it does not list denied, in their order.  A denial that names no
columns is lifted by a grant on the whole object, and by no list of columns. -/
theorem denial_names_remedy {catalog : Catalog} (reachable : catalog.Reachable)
    {artifacts : ArtifactStore} {statement : Statement} {object : ObjectId}
    {mode : Access} {forGrant : Bool} {denial : Denial}
    (denied : catalog.ruling artifacts statement (.access object mode)
      forGrant = .error (.permissionDenied denial)) (grantor : String) :
    let own :=
      Grant.ofPrivileges statement.user object [mode.privilege] grantor
    let ruledAfter (added : Grant) :=
      (catalog.grant added).2.ruling artifacts statement (.access object mode)
        forGrant
    (∀ added, added.object = object → (catalog.grant added).1 = .ok ()) ∧
    (∀ missing, denial.columns = some missing → ∀ listed,
      ruledAfter (own.restrictTo listed) =
        if ∀ column ∈ missing, column ∈ listed then .ok ()
        else .error (.permissionDenied
          { denial with columns := some (missing.filter (· ∉ listed)) })) ∧
    (denial.columns = none →
      ruledAfter own = .ok () ∧
      ∀ listed, ruledAfter (own.restrictTo listed) =
        .error (.permissionDenied denial)) := by
  intro own ruledAfter
  obtain ⟨row, home, disputed, coverage, told⟩ := disputed_of_denied denied
  obtain ⟨incomplete, lacking⟩ := Access.coverage_eq_lacking_iff.mp coverage
  have heeded : statement.Heeds own.grantee := .inl rfl
  have scope : own.scope? mode.privilege = some .everyColumn := by
    simp [own, Grant.scope?_ofPrivileges]
  have restricted : ∀ listed,
      (own.restrictTo listed).scope? mode.privilege = some (.only listed) := by
    intro listed
    rw [Grant.scope?_restrictTo, scope]
    rfl
  refine ⟨?_, ?_, ?_⟩
  · rintro added rfl
    exact grant_eq_ok_iff.mpr ⟨row, disputed.found⟩
  · intro missing named listed
    rw [named] at lacking told
    obtain ⟨columns, asked, uncovered⟩ :=
      Option.map_eq_some_iff.mp lacking.symm
    have unlisted : (fun column =>
        !(own.restrictTo listed).reaches mode.privilege column) =
          fun column => decide (column ∉ listed) := by
      funext column
      simp [Grant.reaches, restricted]
    have settled : ruledAfter (own.restrictTo listed) =
        let left := missing.filter (· ∉ listed)
        if left = [] then .ok ()
        else .error (.permissionDenied
          (statement.withheld row home mode (some left) forGrant)) := by
      rw [← uncovered, ← unlisted]
      exact disputed.ruling_grant_columns (own.restrictTo listed) reachable
        heeded asked
    have none_left : missing.filter (· ∉ listed) = [] ↔
        ∀ column ∈ missing, column ∈ listed := by
      simp [List.filter_eq_nil_iff]
    simp only [settled, none_left, told]
    rfl
  · intro unnamed
    rw [unnamed] at lacking told
    have whole : mode.columns = none := Option.map_eq_none_iff.mp lacking.symm
    constructor
    · have settled : ruledAfter own = _ :=
        disputed.ruling_grant_whole own reachable heeded whole incomplete
      rw [settled, scope]
      rfl
    · intro listed
      have settled : ruledAfter (own.restrictTo listed) = _ :=
        disputed.ruling_grant_whole (own.restrictTo listed) reachable heeded
          whole incomplete
      rw [settled, restricted, told]
      rfl

theorem clerk_needs_note_and_paid :
    let catalog := Catalog.empty.run ordersShared
    let statement : Statement := { txn := ⟨1⟩, user := "clerk" }
    let updates : Requirement :=
      .access ⟨2⟩ (.update ["note", "id", "paid", "total"])
    let denial (columns : List String) : Denial :=
      { user := "clerk", privilege := "UPDATE", objectType := "TABLE"
        schema := "APP", name := some "ORDERS", columns := some columns
        forGrant := false }
    let ruledAfter (listed : List String) :=
      (catalog.grant ((Grant.ofPrivileges "clerk" ⟨2⟩ [.update]
        "dba").restrictTo listed)).2.ruling {} statement updates false
    catalog.Reachable ∧
      catalog.ruling {} statement updates false =
        .error (.permissionDenied (denial ["note", "paid"])) ∧
      ruledAfter ["note", "total"] =
        .error (.permissionDenied (denial ["paid"])) ∧
      ruledAfter ["paid", "note"] = .ok () := by
  intro catalog statement updates denial ruledAfter
  have reachable : catalog.Reachable := ⟨ordersShared, rfl⟩
  have denied : catalog.ruling {} statement updates false =
      .error (.permissionDenied (denial ["note", "paid"])) := by
    decide
  obtain ⟨-, remedy, -⟩ := denial_names_remedy reachable denied "dba"
  have one := remedy ["note", "paid"] rfl ["note", "total"]
  have both := remedy ["note", "paid"] rfl ["paid", "note"]
  rw [if_neg (by decide)] at one
  rw [if_pos (by decide)] at both
  exact ⟨reachable, denied, one, both⟩

end SqlAdmission
