import SqlAdmission.Proofs.Settlement
import SqlAdmission.Statement.Check

/-!
# Verdicts on accesses

Against a dictionary whose reads succeed, an access is admitted exactly when
its target resolves to a row of a fitting kind and the user owns the database
or the grants that count for the user cover the access.  A read that fails
rejects, and which reads there are depends on the user and the policy.
-/

namespace SqlAdmission

/-- The rows a dictionary holds. -/
abbrev Rows := (wanted : Lookup) → Option wanted.Row

theorem Grant.covers_none_iff {grant : Grant} {privilege : Privilege} :
    grant.covers privilege none = true ↔
      grant.scope? privilege = some .everyColumn := by
  unfold covers
  cases grant.scope? privilege with
  | none => simp
  | some scope => cases scope <;> simp

/-- Grants cover a whole object by one unrestricted scope, and columns one by
one. -/
theorem Access.coverage_eq_complete_iff {mode : Access} {grants : List Grant} :
    mode.coverage grants = .complete ↔
      match mode.columns with
      | none =>
        ∃ grant ∈ grants, grant.scope? mode.privilege = some .everyColumn
      | some columns =>
        ∀ column ∈ columns,
          ∃ grant ∈ grants, grant.reaches mode.privilege column = true := by
  unfold coverage
  cases mode.columns with
  | none => simp [← Grant.covers_none_iff]
  | some columns =>
      have covered :
          uncoveredColumns grants mode.privilege columns = [] ↔
            ∀ column ∈ columns,
              ∃ grant ∈ grants, grant.reaches mode.privilege column = true := by
        simp [uncoveredColumns]
      simp only
      rw [← covered]
      cases uncoveredColumns grants mode.privilege columns <;> simp

theorem Access.coverage_of_columns {mode : Access} {columns : List String}
    (asked : mode.columns = some columns) (grants : List Grant) :
    mode.coverage grants =
      let missing := uncoveredColumns grants mode.privilege columns
      if missing = [] then .complete else .lacking (some missing) := by
  unfold coverage
  rw [asked]
  simp only
  cases uncoveredColumns grants mode.privilege columns with
  | nil => rfl
  | cons first rest => rfl

/-- More grants cover no less. -/
theorem Access.coverage_mono {mode : Access} {fewer more : List Grant}
    (included : fewer ⊆ more) (covered : mode.coverage fewer = .complete) :
    mode.coverage more = .complete := by
  rw [coverage_eq_complete_iff] at covered ⊢
  cases columns : mode.columns with
  | none =>
      rw [columns] at covered
      obtain ⟨grant, member, whole⟩ := covered
      exact ⟨grant, included member, whole⟩
  | some touched =>
      rw [columns] at covered
      intro column touches
      obtain ⟨grant, member, reached⟩ := covered column touches
      exact ⟨grant, included member, reached⟩

/-- What is lacking of an access is told by its columns. -/
theorem Access.coverage_eq_lacking_iff {mode : Access} {grants : List Grant}
    {missing : Option (List String)} :
    mode.coverage grants = .lacking missing ↔
      mode.coverage grants ≠ .complete ∧
        missing = mode.columns.map (uncoveredColumns grants mode.privilege) := by
  unfold coverage
  cases mode.columns with
  | none =>
      cases grants.any (·.covers mode.privilege none) <;> simp [eq_comm]
  | some columns =>
      simp only [Option.map_some]
      cases uncoveredColumns grants mode.privilege columns <;> simp [eq_comm]

namespace Statement

/-- The grantees whose grants count for a statement: its user, and everyone
where the policy honours that. -/
def Heeds (statement : Statement) (grantee : String) : Prop :=
  grantee = statement.user ∨
    statement.policy.honorsPublic = true ∧ grantee = publicGrantee

/-- The grants among the rows of a dictionary that count for a statement. -/
def applicable (statement : Statement) (rows : Rows) (object : ObjectId) :
    List Grant :=
  ((rows (.grant object statement.user)).toList ++
    (if statement.consultsPublic then rows (.grant object publicGrantee)
      else none).toList).filter (·.object = object)

theorem mem_applicable_iff {statement : Statement} {rows : Rows}
    {object : ObjectId} {grant : Grant} :
    grant ∈ statement.applicable rows object ↔
      grant.object = object ∧
        ∃ grantee, statement.Heeds grantee ∧
          rows (.grant object grantee) = some grant := by
  have consults : statement.consultsPublic = true ↔
      statement.policy.honorsPublic = true ∧ statement.user ≠ publicGrantee := by
    simp [consultsPublic]
  simp only [applicable, List.mem_filter, List.mem_append, Option.mem_toList,
    decide_eq_true_eq]
  constructor
  · intro counted
    rcases counted with ⟨own | everyones, filed⟩
    · exact ⟨filed, statement.user, .inl rfl, own⟩
    · split at everyones
      · rename_i consulted
        exact ⟨filed, publicGrantee, .inr ⟨(consults.mp consulted).1, rfl⟩,
          everyones⟩
      · contradiction
  · intro counted
    rcases counted with ⟨filed, grantee, rfl | ⟨honored, rfl⟩, found⟩
    · exact ⟨.inl found, filed⟩
    · by_cases same : statement.user = publicGrantee
      · exact ⟨.inl (same ▸ found), filed⟩
      · have consulted := consults.mpr ⟨honored, same⟩
        exact ⟨.inr (by simpa [consulted] using found), filed⟩

variable {answers : (question : Question) → question.Answer}

/-- Logging the verdict does not change it. -/
@[simp] theorem settle_check (statement : Statement)
    (requirement : Requirement) (forGrant : Bool) :
    (statement.check requirement forGrant).settle answers =
      (statement.decision requirement forGrant).settle answers := by
  simp only [Decision.settle, check, ExceptT.run_mk, Inquiry.eval_bind]
  rfl

section Answers

variable {statement : Statement} {object : ObjectId}

theorem settle_lookup_of_found {wanted : Lookup} {row : Option wanted.Row}
    (found : answers (.lookup statement.txn wanted) = .ok row) :
    (statement.lookup wanted).settle answers = .ok row := by
  unfold lookup
  rw [Decision.settle_query_bind, found]
  rfl

theorem settle_lookup_of_unread {wanted : Lookup} {error : CatalogError}
    (failed : answers (.lookup statement.txn wanted) = .error error) :
    (statement.lookup wanted).settle answers = .error (.catalogRead error) := by
  unfold lookup
  rw [Decision.settle_query_bind, failed]
  rfl

/-- Once the user's own grant is read, the grant to everyone may be read too,
and that read may fail. -/
theorem settle_applicableGrants_of_own {own : Option Grant}
    (found : answers (.lookup statement.txn (.grant object statement.user)) =
      .ok own) :
    (statement.applicableGrants object).settle answers =
      if statement.consultsPublic then
        ((statement.lookup (.grant object publicGrantee)).settle answers).map
          fun everyones =>
            (own.toList ++ everyones.toList).filter (·.object = object)
      else .ok (own.toList.filter (·.object = object)) := by
  unfold applicableGrants
  by_cases consulted : statement.consultsPublic = true
  · simp [consulted, settle_lookup_of_found found, Except.bind]
  · simp [consulted, settle_lookup_of_found found, Except.map]

theorem own_of_settle_applicableGrants {grants : List Grant}
    (read : (statement.applicableGrants object).settle answers = .ok grants) :
    ∃ own, answers (.lookup statement.txn (.grant object statement.user)) =
      .ok own := by
  cases found : answers
      (.lookup statement.txn (.grant object statement.user)) with
  | ok own => exact ⟨own, rfl⟩
  | error error =>
      unfold applicableGrants at read
      rw [Decision.settle_bind, settle_lookup_of_unread found] at read
      cases read

theorem settle_deny_ne_ok {row : ObjectRow} {mode : Access}
    {missing : Option (List String)} {forGrant : Bool} :
    (statement.deny row mode missing forGrant).settle answers ≠ .ok () := by
  unfold deny
  rw [Decision.settle_bind]
  cases found : answers (.lookup statement.txn (.schema row.schema)) with
  | error error =>
      rw [settle_lookup_of_unread found]
      exact nofun
  | ok home =>
      rw [settle_lookup_of_found found]
      cases home with
      | none => exact nofun
      | some home => exact nofun

/-- The target of an access that is admitted was read, and has a fitting
kind. -/
theorem target_of_settle_check {mode : Access} {forGrant : Bool}
    (admitted : (statement.check (.access object mode) forGrant).settle answers =
      .ok ()) :
    ∃ row, answers (.lookup statement.txn (.object object)) = .ok (some row) ∧
      mode.accepts row.kind = true := by
  rw [settle_check] at admitted
  unfold decision decideAccess at admitted
  rw [Decision.settle_bind] at admitted
  cases found : answers (.lookup statement.txn (.object object)) with
  | error error =>
      rw [settle_lookup_of_unread found] at admitted
      cases admitted
  | ok target =>
      rw [settle_lookup_of_found found] at admitted
      simp only [Except.bind] at admitted
      cases kept : target.filter (fun row : ObjectRow => mode.accepts row.kind) with
      | none =>
          rw [kept] at admitted
          cases admitted
      | some row =>
          obtain ⟨resolved, accepted⟩ := Option.filter_eq_some_iff.mp kept
          exact ⟨row, by rw [resolved], accepted⟩

/-- An access to a target of a fitting kind is decided by its grants, unless
the user owns the database. -/
theorem settle_check_access_of_found {row : ObjectRow}
    (found : answers (.lookup statement.txn (.object object)) = .ok (some row))
    {mode : Access} (accepted : mode.accepts row.kind = true)
    (forGrant : Bool) :
    (statement.check (.access object mode) forGrant).settle answers =
      if statement.byOwner then .ok ()
      else
        ((statement.applicableGrants object).settle answers).bind fun grants =>
          match mode.coverage grants with
          | .complete => .ok ()
          | .lacking missing =>
            (statement.deny row mode missing forGrant).settle answers := by
  have kept : Option.filter
      (fun row : ObjectRow => mode.accepts row.kind) (some row) = some row :=
    Option.filter_some_pos accepted
  rw [settle_check]
  unfold decision decideAccess
  simp only [Decision.settle_bind, settle_lookup_of_found found, Except.bind, kept]
  by_cases owner : statement.byOwner = true
  · simp [owner]
  · simp only [owner, Bool.false_eq_true, if_false, Decision.settle_bind]
    cases (statement.applicableGrants object).settle answers with
    | error rejection => rfl
    | ok grants =>
        simp only [Except.bind]
        cases mode.coverage grants with
        | complete => rfl
        | lacking missing => rfl

theorem settle_check_access_eq_ok_iff_of_found {row : ObjectRow}
    (found : answers (.lookup statement.txn (.object object)) = .ok (some row))
    {mode : Access} (accepted : mode.accepts row.kind = true)
    (forGrant : Bool) :
    (statement.check (.access object mode) forGrant).settle answers = .ok () ↔
      statement.byOwner = true ∨
        ∃ grants, (statement.applicableGrants object).settle answers =
            .ok grants ∧ mode.coverage grants = .complete := by
  rw [settle_check_access_of_found found accepted]
  by_cases owner : statement.byOwner = true
  · simp [owner]
  · rw [if_neg owner, or_iff_right owner]
    cases (statement.applicableGrants object).settle answers with
    | error rejection => simp [Except.bind]
    | ok grants =>
        simp only [Except.bind, Except.ok.injEq, exists_eq_left']
        cases mode.coverage grants with
        | complete => simp
        | lacking missing => simp [settle_deny_ne_ok]

end Answers

section Reads

variable {statement : Statement} {rows : Rows}

theorem settle_lookup
    (reads : ∀ wanted, answers (.lookup statement.txn wanted) = .ok (rows wanted))
    (wanted : Lookup) :
    (statement.lookup wanted).settle answers = .ok (rows wanted) :=
  settle_lookup_of_found (reads wanted)

theorem settle_applicableGrants
    (reads : ∀ wanted, answers (.lookup statement.txn wanted) = .ok (rows wanted))
    (object : ObjectId) :
    (statement.applicableGrants object).settle answers =
      .ok (statement.applicable rows object) := by
  rw [settle_applicableGrants_of_own (reads _)]
  unfold applicable
  by_cases consulted : statement.consultsPublic = true
  · simp [consulted, settle_lookup reads, Except.map]
  · simp [consulted]

/-- The denial of an access for what the grants lack. -/
def withheld (statement : Statement) (row : ObjectRow) (home : SchemaRow)
    (mode : Access) (missing : Option (List String)) (forGrant : Bool) :
    Denial where
  user := statement.user
  privilege := mode.privilege.name
  objectType := row.kind.label
  schema := home.name
  name := some row.name
  columns := missing
  forGrant := forGrant

/-- The rejection of an access for what the grants lack.  A denial names the
schema of its target, so a schema that does not resolve is told instead. -/
def refusal (statement : Statement) (rows : Rows) (row : ObjectRow)
    (mode : Access) (missing : Option (List String)) (forGrant : Bool) :
    Rejection :=
  match rows (.schema row.schema) with
  | none => .danglingReference "schema" row.schema.val
  | some home =>
    .permissionDenied (statement.withheld row home mode missing forGrant)

theorem settle_deny
    (reads : ∀ wanted, answers (.lookup statement.txn wanted) = .ok (rows wanted))
    (row : ObjectRow) (mode : Access) (missing : Option (List String))
    (forGrant : Bool) :
    (statement.deny row mode missing forGrant).settle answers =
      .error (statement.refusal rows row mode missing forGrant) := by
  unfold deny refusal
  simp only [Decision.settle_bind, settle_lookup reads, Except.bind]
  cases rows (.schema row.schema) with
  | none => rfl
  | some home => rfl

/-- An access whose target does not resolve to a fitting row is rejected as
dangling, whoever asks. -/
theorem settle_check_access_of_unfit
    (reads : ∀ wanted, answers (.lookup statement.txn wanted) = .ok (rows wanted))
    {object : ObjectId} {mode : Access}
    (unfit : ¬∃ row, rows (.object object) = some row ∧
      mode.accepts row.kind = true) (forGrant : Bool) :
    (statement.check (.access object mode) forGrant).settle answers =
      .error (.danglingReference mode.targetKind object.val) := by
  rw [settle_check]
  unfold decision decideAccess
  simp only [Decision.settle_bind, settle_lookup reads, Except.bind]
  cases found : rows (.object object) with
  | none => rfl
  | some row =>
      have refused : mode.accepts row.kind = false :=
        Bool.eq_false_iff.mpr fun accepted => unfit ⟨row, found, accepted⟩
      have removed : Option.filter
          (fun row : ObjectRow => mode.accepts row.kind) (some row) = none :=
        Option.filter_some_neg refused
      rw [removed]
      rfl

theorem settle_check_access_of_fit
    (reads : ∀ wanted, answers (.lookup statement.txn wanted) = .ok (rows wanted))
    {object : ObjectId} {row : ObjectRow}
    (found : rows (.object object) = some row) {mode : Access}
    (accepted : mode.accepts row.kind = true) (forGrant : Bool) :
    (statement.check (.access object mode) forGrant).settle answers =
      if statement.byOwner then .ok ()
      else
        match mode.coverage (statement.applicable rows object) with
        | .complete => .ok ()
        | .lacking missing =>
          .error (statement.refusal rows row mode missing forGrant) := by
  have resolved : answers (.lookup statement.txn (.object object)) =
      .ok (some row) := by
    rw [reads, found]
  rw [settle_check_access_of_found resolved accepted,
    settle_applicableGrants reads]
  simp only [Except.bind, settle_deny reads]

/-- An access is admitted when its target has a fitting kind and the user is
the owner of the database or holds grants that cover it. -/
theorem settle_check_access_iff
    (reads : ∀ wanted, answers (.lookup statement.txn wanted) = .ok (rows wanted))
    (object : ObjectId) (mode : Access) (forGrant : Bool) :
    (statement.check (.access object mode) forGrant).settle answers = .ok () ↔
      ∃ row, rows (.object object) = some row ∧ mode.accepts row.kind = true ∧
        (statement.byOwner = true ∨
          mode.coverage (statement.applicable rows object) = .complete) := by
  by_cases fit : ∃ row, rows (.object object) = some row ∧
      mode.accepts row.kind = true
  · obtain ⟨row, found, accepted⟩ := fit
    rw [settle_check_access_of_fit reads found accepted]
    by_cases owner : statement.byOwner = true
    · simp [found, accepted, owner]
    · cases covered : mode.coverage (statement.applicable rows object) with
      | complete => simp [found, accepted]
      | lacking missing => simp [found, owner]
  · rw [settle_check_access_of_unfit reads fit]
    refine iff_of_false (by simp) ?_
    intro admitted
    obtain ⟨row, found, accepted, -⟩ := admitted
    exact fit ⟨row, found, accepted⟩

/-- The denial of a schema to a user who does not own it. -/
def disowned (statement : Statement) (home : SchemaRow) (forGrant : Bool) :
    Denial where
  user := statement.user
  privilege := "OWNERSHIP"
  objectType := "SCHEMA"
  schema := home.name
  name := none
  columns := none
  forGrant := forGrant

/-- The ownership of a schema that exists is admitted to its owner and to the
owner of the database. -/
theorem settle_check_ownership
    (reads : ∀ wanted, answers (.lookup statement.txn wanted) = .ok (rows wanted))
    (schema : SchemaId) (forGrant : Bool) :
    (statement.check (.ownership schema) forGrant).settle answers =
      match rows (.schema schema) with
      | none => .error (.danglingReference "schema" schema.val)
      | some home =>
        if home.owner = statement.user || statement.byOwner then .ok ()
        else .error (.permissionDenied (statement.disowned home forGrant)) := by
  rw [settle_check]
  unfold decision decideOwnership
  simp only [Decision.settle_bind, settle_lookup reads, Except.bind]
  cases rows (.schema schema) with
  | none => rfl
  | some home =>
      dsimp only
      split <;> rfl

end Reads

end Statement

/-- The stores admit an access by the rows of the catalog. -/
theorem Stores.settle_check_access_iff {stores : Stores}
    {statement : Statement} {object : ObjectId} {mode : Access}
    {forGrant : Bool} :
    stores.settle (statement.check (.access object mode) forGrant) = .ok () ↔
      ∃ row, stores.catalog.find? (.object object) = some row ∧
        mode.accepts row.kind = true ∧
          (statement.byOwner = true ∨
            mode.coverage
              (statement.applicable stores.catalog.find? object) = .complete) := by
  rw [settle_eq]
  exact Statement.settle_check_access_iff (fun _ => rfl) object mode forGrant

theorem Stores.settle_check_access_of_unfit {stores : Stores}
    {statement : Statement} {object : ObjectId} {mode : Access}
    {forGrant : Bool}
    (unfit : ¬∃ row, stores.catalog.find? (.object object) = some row ∧
      mode.accepts row.kind = true) :
    stores.settle (statement.check (.access object mode) forGrant) =
      .error (.danglingReference mode.targetKind object.val) := by
  rw [settle_eq]
  exact Statement.settle_check_access_of_unfit (fun _ => rfl) unfit forGrant

theorem Stores.settle_check_ownership {stores : Stores}
    {statement : Statement} {schema : SchemaId} {forGrant : Bool} :
    stores.settle (statement.check (.ownership schema) forGrant) =
      match stores.catalog.find? (.schema schema) with
      | none => .error (.danglingReference "schema" schema.val)
      | some home =>
        if home.owner = statement.user || statement.byOwner then .ok ()
        else .error (.permissionDenied (statement.disowned home forGrant)) := by
  rw [settle_eq]
  exact Statement.settle_check_ownership (fun _ => rfl) schema forGrant

end SqlAdmission
