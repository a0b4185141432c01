import SqlAdmission.Proofs.AggregateHistory
import SqlAdmission.Proofs.CatalogRows
import SqlAdmission.Proofs.EmptyGrant

/-!
# Refused changes

A change is refused exactly when the rows that exist stand in its way, with an
error that tells which of them does.  A change that is refused leaves the catalog
as it is, so a history comes to the same without it.  The declaration of an
aggregate, which stores two rows, stores both or neither, and a revocation that
finds nothing to take changes nothing.
-/

namespace SqlAdmission

namespace Grant

theorem scopes_revoke_of_not_holds {grant : Grant} {privilege : Privilege}
    (lacking : grant.holds privilege = false) :
    (grant.revoke privilege).scopes = grant.scopes := by
  have absent : grant.scope? privilege = none := by
    simpa [holds] using lacking
  refine scopes_ext fun other => ?_
  have told := grant.scope?_revoke privilege other
  by_cases same : privilege = other
  · subst same
    rw [if_pos rfl, ← absent] at told
    exact told
  · rw [if_neg same] at told
    exact told

theorem revoke_eq_self_iff {grant : Grant} {privilege : Privilege} :
    grant.revoke privilege = grant ↔ grant.holds privilege = false := by
  constructor
  · intro unchanged
    have taken := grant.scope?_revoke privilege privilege
    rw [unchanged, if_pos rfl] at taken
    simp [holds, taken]
  · intro lacking
    have same := scopes_revoke_of_not_holds lacking
    cases grant
    exact congrArg (Grant.mk _ _ · _) same

end Grant

namespace Catalog

variable {catalog after : Catalog} {change : CatalogChange}
  {result : Except CatalogError (Option UInt64)} {error : CatalogError}

/-! ## What stands in the way of a change -/

/-- A schema that exists has the name. -/
def HasSchema (catalog : Catalog) (name : String) : Prop :=
  ∃ id home, catalog.find? (.schema id) = some home ∧ home.name = name

/-- An object that exists has the name in the schema. -/
def HasObject (catalog : Catalog) (schema : SchemaId) (name : String) : Prop :=
  ∃ id row, catalog.find? (.object id) = some row ∧ row.schema = schema ∧
    row.name = name

/-- A schema has no place for a new object of a name: it does not exist, or the
name is taken in it. -/
def NoPlace (catalog : Catalog) (schema : SchemaId) (name : String)
    (error : CatalogError) : Prop :=
  match catalog.find? (.schema schema) with
  | none => error = .schemaNotFound schema
  | some home =>
    error = .objectExists home.name name ∧ catalog.HasObject schema name

/-- The rows that exist stand in the way of a change, as an error tells.  Nothing
stands in the way of a revocation. -/
def Prevents (catalog : Catalog) (error : CatalogError) : CatalogChange → Prop
  | .createSchema name _ => error = .schemaExists name ∧ catalog.HasSchema name
  | .dropSchema id =>
    error = .schemaNotFound id ∧ catalog.find? (.schema id) = none
  | .createObject schema name _ | .createAggregate schema name _ _ _ =>
    catalog.NoPlace schema name error
  | .dropObject id => error = .objectNotFound id ∧ ¬catalog.Live id
  | .grant grant =>
    error = .objectNotFound grant.object ∧ ¬catalog.Live grant.object
  | .revoke _ _ _ => False

theorem hasSchema_iff {name : String} :
    catalog.HasSchema name ↔ ∃ other, catalog.schemaNamed? name = some other := by
  rw [← Option.ne_none_iff_exists', Ne, schemaNamed?_eq_none_iff]
  simp [HasSchema]

theorem hasObject_iff {schema : SchemaId} {name : String} :
    catalog.HasObject schema name ↔ catalog.hasObjectNamed schema name = true := by
  rw [← Bool.not_eq_false, hasObjectNamed_eq_false_iff]
  simp [HasObject]

theorem noPlace_iff {schema : SchemaId} {name : String} :
    catalog.NoPlace schema name error ↔
      catalog.schemas[schema]? = none ∧ error = .schemaNotFound schema ∨
        ∃ home, catalog.schemas[schema]? = some home ∧
          catalog.hasObjectNamed schema name = true ∧
            error = .objectExists home.name name := by
  unfold NoPlace
  rw [hasObject_iff]
  simp only [find?]
  cases catalog.schemas[schema]? with
  | none => simp
  | some home => simp [and_comm]

/-- A refusal is told by the rows that exist. -/
theorem refusal_iff_prevents :
    Refusal catalog change error ↔ catalog.Prevents error change := by
  constructor
  · intro refusal
    cases refusal with
    | schemaExists taken => exact ⟨rfl, hasSchema_iff.mpr ⟨_, taken⟩⟩
    | schemaUnknown unknown => exact ⟨rfl, find?_schema_eq_none_iff.mpr unknown⟩
    | objectHomeless homeless | aggregateHomeless homeless =>
        exact noPlace_iff.mpr (.inl ⟨homeless, rfl⟩)
    | objectExists housed taken | aggregateExists housed taken =>
        exact noPlace_iff.mpr (.inr ⟨_, housed, taken, rfl⟩)
    | objectUnknown unknown | targetUnknown unknown =>
        exact ⟨rfl, mt live_iff_mem.mp unknown⟩
  · intro prevented
    cases change with
    | createSchema name owner =>
        obtain ⟨rfl, taken⟩ := prevented
        obtain ⟨other, found⟩ := hasSchema_iff.mp taken
        exact .schemaExists found
    | dropSchema id =>
        obtain ⟨rfl, gone⟩ := prevented
        exact .schemaUnknown (find?_schema_eq_none_iff.mp gone)
    | createObject schema name kind =>
        obtain ⟨homeless, rfl⟩ | ⟨home, housed, taken, rfl⟩ :=
          noPlace_iff.mp prevented
        · exact .objectHomeless homeless
        · exact .objectExists housed taken
    | createAggregate schema name inputType returnType implementation =>
        obtain ⟨homeless, rfl⟩ | ⟨home, housed, taken, rfl⟩ :=
          noPlace_iff.mp prevented
        · exact .aggregateHomeless homeless
        · exact .aggregateExists housed taken
    | dropObject id =>
        obtain ⟨rfl, dead⟩ := prevented
        exact .objectUnknown (mt live_iff_mem.mpr dead)
    | grant grant =>
        obtain ⟨rfl, dead⟩ := prevented
        exact .targetUnknown (mt live_iff_mem.mpr dead)
    | revoke object grantee privilege => exact prevented.elim

theorem Step.of_error (step : Step catalog change (.error error) after) :
    Refusal catalog change error ∧ after = catalog := by
  cases step with
  | refused refusal => exact ⟨refusal, rfl⟩

theorem Refusal.apply_eq (refusal : Refusal catalog change error) :
    (catalog.apply change).1 = .error error := by
  cases refusal with
  | schemaExists taken => simp [apply, createSchema, taken, Except.map]
  | schemaUnknown unknown => simp [apply, dropSchema, unknown, Except.map]
  | objectHomeless homeless => simp [apply, createObject, homeless, Except.map]
  | objectExists housed taken =>
      simp [apply, createObject, housed, taken, Except.map]
  | aggregateHomeless homeless =>
      simp [apply, createAggregate, createObject, homeless, Except.map]
  | aggregateExists housed taken =>
      simp [apply, createAggregate, createObject, housed, taken, Except.map]
  | objectUnknown unknown => simp [apply, dropObject, unknown, Except.map]
  | targetUnknown unknown => simp [apply, Catalog.grant, unknown, Except.map]

theorem refusal_of_apply (refused : (catalog.apply change).1 = .error error) :
    Refusal catalog change error ∧ (catalog.apply change).2 = catalog := by
  have step := step_apply catalog change
  rw [refused] at step
  exact step.of_error

/-- A change fails exactly when the rows that exist stand in its way. -/
theorem apply_eq_error_iff :
    (catalog.apply change).1 = .error error ↔ catalog.Prevents error change := by
  rw [← refusal_iff_prevents]
  constructor
  · intro refused
    exact (refusal_of_apply refused).1
  · exact Refusal.apply_eq

/-! ## Histories without their refused changes -/

/-- The outcomes of some changes in a row. -/
def outcomes (catalog : Catalog) :
    List CatalogChange → List (Except CatalogError (Option UInt64))
  | [] => []
  | change :: later =>
    (catalog.apply change).1 :: (catalog.apply change).2.outcomes later

/-- Those of some changes in a row that are not refused. -/
def accepted (catalog : Catalog) : List CatalogChange → List CatalogChange
  | [] => []
  | change :: later =>
    match (catalog.apply change).1 with
    | .ok _ => change :: (catalog.apply change).2.accepted later
    | .error _ => (catalog.apply change).2.accepted later

/-- The changes that are not refused come to the same as all of them, each with
the outcome it has among all of them. -/
theorem run_accepted (catalog : Catalog) (changes : List CatalogChange) :
    catalog.run (catalog.accepted changes) = catalog.run changes ∧
      catalog.outcomes (catalog.accepted changes) =
        (catalog.outcomes changes).filter (·.isOk) := by
  induction changes generalizing catalog with
  | nil => exact ⟨rfl, rfl⟩
  | cons change later induction =>
      obtain ⟨sameEnd, sameOutcomes⟩ := induction (catalog.apply change).2
      cases outcome : (catalog.apply change).1 with
      | ok id =>
          simp only [accepted, outcome, outcomes, run_cons, sameEnd, sameOutcomes]
          exact ⟨trivial, rfl⟩
      | error error =>
          -- The rest starts from the catalog that the refused change left.
          have unchanged := (refusal_of_apply outcome).2
          rw [unchanged] at sameEnd sameOutcomes
          simp only [accepted, outcome, outcomes, run_cons, unchanged, sameEnd,
            sameOutcomes]
          exact ⟨trivial, rfl⟩

/-! ## Aggregates without a registration -/

/-- An aggregate that exists and is not registered. -/
def Unregistered (catalog : Catalog) (id : ObjectId) (row : ObjectRow) : Prop :=
  catalog.find? (.object id) = some row ∧ row.kind = .aggregate ∧
    catalog.find? (.registration id) = none

/-- Only the creation of a plain object leaves an aggregate that is not
registered where there was none. -/
theorem Step.unregistered_origin (step : Step catalog change result after)
    {id : ObjectId} {row : ObjectRow} (unregistered : after.Unregistered id row) :
    catalog.Unregistered id row ∨
      change = .createObject row.schema row.name .aggregate := by
  obtain ⟨found, aggregate, absent⟩ := unregistered
  rw [step.find?] at found absent
  cases step with
  | objectCreated housed free =>
      simp only [findAfter] at found
      split at found
      · cases found
        cases aggregate
        exact .inr rfl
      · exact .inl ⟨found, aggregate, absent⟩
  | @aggregateCreated schema name inputType returnType implementation home
      housed free =>
      have homed : catalog.find? (.schema schema) = some home := housed
      simp only [findAfter, homed] at found absent
      split at absent
      · simp at absent
      · rename_i different
        rw [if_neg different] at found
        exact .inl ⟨found, aggregate, absent⟩
  | objectDropped live =>
      simp only [findAfter] at found absent
      split at found
      · contradiction
      · rename_i different
        rw [if_neg different] at absent
        exact .inl ⟨found, aggregate, absent⟩
  | _ => exact .inl ⟨found, aggregate, absent⟩

/-! ## Revocations without effect -/

theorem revoke_eq_self_iff_getElem? {object : ObjectId} {grantee : String}
    {privilege : Privilege} :
    catalog.revoke object grantee privilege = catalog ↔
      ((catalog.grants[(⟨object, grantee⟩ : GrantKey)]?).map
          (·.revoke privilege)).filter (!·.isEmpty) =
        catalog.grants[(⟨object, grantee⟩ : GrantKey)]? := by
  constructor
  · intro unchanged
    have stored := congrArg
      (fun catalog => catalog.grants[(⟨object, grantee⟩ : GrantKey)]?) unchanged
    simpa [revoke] using stored
  · intro unchanged
    have same : (catalog.revoke object grantee privilege).grants =
        catalog.grants := by
      refine Std.ExtTreeMap.ext_getElem? fun key => ?_
      simp only [revoke, Std.ExtTreeMap.getElem?_alter, Std.compare_eq_iff_eq]
      split
      · rename_i place
        rw [← place, unchanged]
      · rfl
    cases catalog
    exact congrArg (Catalog.mk _ _ · _ _) same

/-- A revocation changes nothing exactly when what is stored for the grantee, if
anything is, carries some privilege, but not the one revoked. -/
theorem revoke_eq_self_iff {object : ObjectId} {grantee : String}
    {privilege : Privilege} :
    catalog.revoke object grantee privilege = catalog ↔
      ∀ grant, catalog.find? (.grant object grantee) = some grant →
        (∃ held, grant.holds held = true) ∧ grant.holds privilege = false := by
  rw [revoke_eq_self_iff_getElem?]
  simp only [find?]
  cases catalog.grants[(⟨object, grantee⟩ : GrantKey)]? with
  | none => simp
  | some own =>
      have carrying : (!own.isEmpty) = true ↔
          ∃ held, own.holds held = true := by
        rw [Bool.not_eq_true', ← Bool.not_eq_true, Grant.isEmpty_iff_forall_holds,
          not_not]
      simp only [Option.map_some, Option.filter_eq_some_iff, Option.some.injEq,
        forall_eq', Grant.revoke_eq_self_iff, carrying]
      exact and_comm

end Catalog

open Catalog in
/-- A change fails exactly when the rows that exist stand in its way, with the
error that tells which of them does.  It then leaves the catalog as it is, so
that whatever follows comes to the same without it; and so does every history
without the changes that fail in it.  An aggregate is created together with its
registration, and no attempt to create one leaves an aggregate without.  A
revocation changes nothing exactly where there is nothing for it to take. -/
theorem failed_changes_leave_no_trace (catalog : Catalog) :
    (∀ change error,
      (catalog.apply change).1 = .error error ↔ catalog.Prevents error change) ∧
    (∀ change error, (catalog.apply change).1 = .error error →
      (catalog.apply change).2 = catalog ∧
        ∀ later, catalog.run (change :: later) = catalog.run later ∧
          catalog.outcomes (change :: later) =
            .error error :: catalog.outcomes later) ∧
    (∀ changes, catalog.run (catalog.accepted changes) = catalog.run changes ∧
      catalog.outcomes (catalog.accepted changes) =
        (catalog.outcomes changes).filter (·.isOk)) ∧
    (∀ schema name inputType returnType implementation,
      let created :=
        catalog.createAggregate schema name inputType returnType implementation
      (∀ id, created.1 = .ok id →
        ∃ home, catalog.find? (.schema schema) = some home ∧
          created.2.find? (.object id) =
            some ⟨id, schema, name, .aggregate⟩ ∧
          created.2.find? (.registration id) =
            some ⟨id, home.name, name, inputType, returnType,
              implementation⟩) ∧
      ∀ id row, created.2.Unregistered id row → catalog.Unregistered id row) ∧
    ∀ object grantee privilege,
      catalog.revoke object grantee privilege = catalog ↔
        ∀ grant, catalog.find? (.grant object grantee) = some grant →
          (∃ held, grant.holds held = true) ∧ grant.holds privilege = false := by
  refine ⟨fun change error => apply_eq_error_iff, ?_, run_accepted catalog, ?_,
    fun object grantee privilege => revoke_eq_self_iff⟩
  · intro change error refused
    have unchanged := (refusal_of_apply refused).2
    refine ⟨unchanged, fun later => ?_⟩
    rw [run_cons, outcomes, refused, unchanged]
    exact ⟨rfl, rfl⟩
  · intro schema name inputType returnType implementation created
    constructor
    · intro id succeeded
      obtain ⟨⟨home, housed⟩, -⟩ := createAggregate_eq_ok_iff.mp succeeded
      exact ⟨home, housed, find?_createAggregate succeeded housed⟩
    · intro id row unregistered
      have step := step_apply catalog
        (.createAggregate schema name inputType returnType implementation)
      exact (step.unregistered_origin unregistered).resolve_right (by simp)

/-- A registered aggregate in a schema, another one of that kind that was not
declared, and a clerk who may execute the first. -/
def spreadShared : List CatalogChange :=
  [.createSchema "APP" "dba",
    .createAggregate ⟨1⟩ "SPREAD" .double .double "stats.Spread",
    .createObject ⟨1⟩ "MEDIAN" .aggregate,
    .grant (Grant.ofPrivileges "clerk" ⟨2⟩ [.execute] "dba")]

theorem spread_declared_once :
    let catalog := Catalog.empty.run spreadShared
    let again : CatalogChange :=
      .createAggregate ⟨1⟩ "SPREAD" .int .int "stats.Narrow"
    catalog.Prevents (.objectExists "APP" "SPREAD") again ∧
      (catalog.apply again).2 = catalog ∧
      catalog.Prevents (.schemaNotFound ⟨9⟩)
        (.createAggregate ⟨9⟩ "SPREAD" .int .int "stats.Narrow") ∧
      catalog.accepted [again, .dropSchema ⟨1⟩, .dropSchema ⟨1⟩] =
        [.dropSchema ⟨1⟩] ∧
      catalog.run [.dropSchema ⟨1⟩] =
        catalog.run [again, .dropSchema ⟨1⟩, .dropSchema ⟨1⟩] ∧
      catalog.revoke ⟨2⟩ "clerk" .usage = catalog ∧
      catalog.revoke ⟨2⟩ "clerk" .execute ≠ catalog := by
  intro catalog again
  have refused : (catalog.apply again).1 =
      .error (.objectExists "APP" "SPREAD") := by
    rfl
  have kept : catalog.accepted [again, .dropSchema ⟨1⟩, .dropSchema ⟨1⟩] =
      [.dropSchema ⟨1⟩] := by
    rfl
  obtain ⟨prevented, traceless, accepted, -, revoked⟩ :=
    failed_changes_leave_no_trace catalog
  have sameEnd := (accepted [again, .dropSchema ⟨1⟩, .dropSchema ⟨1⟩]).1
  rw [kept] at sameEnd
  refine ⟨(prevented _ _).mp refused, (traceless _ _ refused).1,
    (prevented _ _).mp rfl, kept, sameEnd, ?_, ?_⟩
  · refine (revoked ⟨2⟩ "clerk" .usage).mpr ?_
    intro grant found
    cases found
    exact ⟨⟨.execute, rfl⟩, rfl⟩
  · intro unchanged
    have lacking := (revoked ⟨2⟩ "clerk" .execute).mp unchanged _ rfl
    exact absurd lacking.2 (by decide)

end SqlAdmission
