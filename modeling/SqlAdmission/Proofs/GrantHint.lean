import SqlAdmission.Catalog.Change
import SqlAdmission.Proofs.Calls
import SqlAdmission.Proofs.Verdict

/-!
# The grant hint

Whether a capability is to be used or granted is a hint that only a denial
tells.  A check for a grant and one for a use ask the same, whatever the answers,
and come to the same, except that a denial carries the hint.  Its text differs
then in any case, and its SQLSTATE where EXECUTE is required.
-/

namespace SqlAdmission

/-- The privilege that the denial of a requirement names. -/
def Requirement.deniedPrivilege (requirement : Requirement) : String :=
  match requirement.privilege? with
  | some privilege => privilege.name
  | none => "OWNERSHIP"

theorem Requirement.deniedPrivilege_eq_execute_iff {requirement : Requirement} :
    requirement.deniedPrivilege = "EXECUTE" ↔
      ∃ object, requirement = .access object .execute := by
  cases requirement with
  | access object mode =>
      cases mode <;>
        simp [deniedPrivilege, privilege?, Access.privilege, Privilege.name]
  | ownership schema => simp [deniedPrivilege, privilege?]

namespace Denial

/-- A denial names the privilege that a requirement takes, and columns exactly
if the requirement lists some. -/
structure Concerns (denial : Denial) (requirement : Requirement) : Prop where
  privilege : denial.privilege = requirement.deniedPrivilege
  columns : denial.columns.isSome = requirement.columns.isSome

/-- The text of a denial tells right after the user whether it is for a grant. -/
theorem message_eq (denial : Denial) :
    ∃ rest, denial.message =
      s!"User '{denial.user}' " ++
        ((if denial.forGrant then "cannot grant" else "does not have") ++
          rest) := by
  simp only [message, toString, String.append_assoc, String.append_right_inj,
    exists_eq']

theorem message_forGrant_ne (denial : Denial) :
    { denial with forGrant := true }.message ≠
      { denial with forGrant := false }.message := by
  intro same
  obtain ⟨_, forGrant⟩ := message_eq { denial with forGrant := true }
  obtain ⟨_, forUse⟩ := message_eq { denial with forGrant := false }
  rw [forGrant, forUse] at same
  simp only [String.append_right_inj] at same
  have heads := congrArg (fun text => text.toList.head?) same
  simp at heads

/-- A denial has one of two states by the hint if EXECUTE is required, and else
the state that tells whether columns are. -/
theorem Concerns.sqlState_eq {denial : Denial} {requirement : Requirement}
    (concerns : denial.Concerns requirement) :
    denial.sqlState =
      if requirement.deniedPrivilege = "EXECUTE" then
        if denial.forGrant then "42505" else "42504"
      else if requirement.columns.isSome then "42503"
      else "42502" := by
  unfold sqlState
  rw [concerns.privilege, concerns.columns]

theorem Concerns.withHint {denial : Denial} {requirement : Requirement}
    (concerns : denial.Concerns requirement) (forGrant : Bool) :
    { denial with forGrant }.Concerns requirement :=
  ⟨concerns.privilege, concerns.columns⟩

end Denial

/-- How two results compare of which one is for a grant and the other for a use:
they are the same, or denials of a requirement that differ by the hint. -/
inductive HintOnly {α : Type} (requirement : Requirement) :
    Except Rejection α → Except Rejection α → Prop where
  | admitted (value : α) : HintOnly requirement (.ok value) (.ok value)
  | rejected {rejection : Rejection} (undenied : rejection.isDenial = false) :
      HintOnly requirement (.error rejection) (.error rejection)
  | denied {denial : Denial} (concerns : denial.Concerns requirement) :
      HintOnly requirement
        (.error (.permissionDenied { denial with forGrant := true }))
        (.error (.permissionDenied { denial with forGrant := false }))

namespace Decision

variable {α β : Type} {requirement : Requirement}

/-- Two decisions ask the same, and their results differ by the hint only. -/
def Hinted (requirement : Requirement) (forGrant forUse : Decision α) : Prop :=
  forGrant.run.Mirrors (HintOnly requirement) forUse.run

theorem hinted_pure (value : α) :
    Hinted requirement (pure value) (pure value) :=
  .done (.admitted value)

theorem hinted_throw {rejection : Rejection}
    (undenied : rejection.isDenial = false) :
    Hinted requirement (throw rejection : Decision α) (throw rejection) :=
  .done (.rejected undenied)

theorem hinted_report (event : Event) :
    Hinted requirement (report event) (report event) :=
  .log (.done (.admitted ()))

theorem hinted_bind {forGrant forUse : Decision α}
    {next other : α → Decision β} (first : Hinted requirement forGrant forUse)
    (second : ∀ value, Hinted requirement (next value) (other value)) :
    Hinted requirement (forGrant >>= next) (forUse >>= other) := by
  refine Inquiry.Mirrors.bind first ?_
  intro left right hinted
  -- Only an admission goes on; a denial is passed on with its hint.
  cases hinted with
  | admitted value => exact second value
  | rejected undenied => exact .done (.rejected undenied)
  | denied concerns => exact .done (.denied concerns)

end Decision

namespace Statement

variable (statement : Statement) {requirement : Requirement}

theorem hinted_lookup (wanted : Lookup) :
    Decision.Hinted requirement (statement.lookup wanted)
      (statement.lookup wanted) := by
  refine .ask fun answer => ?_
  cases answer with
  | ok row => exact .done (.admitted row)
  | error error => exact .done (.rejected rfl)

theorem hinted_applicableGrants (object : ObjectId) :
    Decision.Hinted requirement (statement.applicableGrants object)
      (statement.applicableGrants object) := by
  refine Decision.hinted_bind (statement.hinted_lookup _) fun own => ?_
  split
  · exact Decision.hinted_bind (statement.hinted_lookup _) fun _ =>
      Decision.hinted_pure _
  · exact Decision.hinted_bind (Decision.hinted_pure none) fun _ =>
      Decision.hinted_pure _

theorem hinted_deny {object : ObjectId} {mode : Access} (row : ObjectRow)
    {missing : Option (List String)}
    (listed : missing.isSome = mode.columns.isSome) :
    Decision.Hinted (.access object mode)
      (statement.deny row mode missing true)
      (statement.deny row mode missing false) := by
  refine Decision.hinted_bind (statement.hinted_lookup _) fun schema => ?_
  cases schema with
  | none => exact Decision.hinted_throw rfl
  | some home =>
      have concerns : (statement.withheld row home mode missing true).Concerns
          (.access object mode) := ⟨rfl, listed⟩
      exact .done (.denied concerns)

theorem hinted_decideAccess (object : ObjectId) (mode : Access) :
    Decision.Hinted (.access object mode)
      (statement.decideAccess object mode true)
      (statement.decideAccess object mode false) := by
  refine Decision.hinted_bind (statement.hinted_lookup _) fun found => ?_
  cases found.filter (mode.accepts ·.kind) with
  | none => exact Decision.hinted_throw rfl
  | some row =>
      dsimp only
      split
      · exact Decision.hinted_report _
      · refine Decision.hinted_bind (statement.hinted_applicableGrants object)
          fun grants => ?_
        cases left : mode.coverage grants with
        | complete => exact Decision.hinted_pure ()
        | lacking missing =>
            obtain ⟨-, rfl⟩ := Access.coverage_eq_lacking_iff.mp left
            exact statement.hinted_deny row Option.isSome_map

theorem hinted_decideOwnership (schema : SchemaId) :
    Decision.Hinted (.ownership schema)
      (statement.decideOwnership schema true)
      (statement.decideOwnership schema false) := by
  refine Decision.hinted_bind (statement.hinted_lookup _) fun found => ?_
  cases found with
  | none => exact Decision.hinted_throw rfl
  | some home =>
      dsimp only
      split
      · exact Decision.hinted_pure ()
      · have concerns : (statement.disowned home true).Concerns
            (.ownership schema) := ⟨rfl, rfl⟩
        exact .done (.denied concerns)

theorem hinted_check (requirement : Requirement) :
    Decision.Hinted requirement (statement.check requirement true)
      (statement.check requirement false) := by
  have decided : Decision.Hinted requirement
      (statement.decision requirement true)
      (statement.decision requirement false) := by
    cases requirement with
    | access object mode => exact statement.hinted_decideAccess object mode
    | ownership schema => exact statement.hinted_decideOwnership schema
  exact decided.bind fun _ _ hinted => .log (.done hinted)

end Statement

/-- What tells the denial of a requirement for a grant from the one for a use. -/
structure ToldApart (requirement : Requirement) (forGrant forUse : Rejection) :
    Prop where
  byText : forGrant.message ≠ forUse.message
  byState : forGrant.sqlState ≠ forUse.sqlState ↔
    ∃ object, requirement = .access object .execute
  ofExecute : (∃ object, requirement = .access object .execute) →
    forGrant.sqlState = "42505" ∧ forUse.sqlState = "42504"
  otherwise : (¬∃ object, requirement = .access object .execute) →
    ∀ rejection ∈ [forGrant, forUse],
      (rejection.sqlState = "42503" ↔ requirement.columns ≠ none) ∧
        (rejection.sqlState = "42502" ↔ requirement.columns = none)

theorem Denial.Concerns.toldApart {denial : Denial} {requirement : Requirement}
    (concerns : denial.Concerns requirement) :
    ToldApart requirement (.permissionDenied { denial with forGrant := true })
      (.permissionDenied { denial with forGrant := false }) := by
  have state (forGrant : Bool) := (concerns.withHint forGrant).sqlState_eq
  have named := requirement.deniedPrivilege_eq_execute_iff
  refine ⟨denial.message_forGrant_ne, ?_, ?_, ?_⟩
  · rw [← named]
    simp only [Rejection.sqlState, state]
    by_cases execute : requirement.deniedPrivilege = "EXECUTE"
    · simp [execute]
    · simp [execute]
  · intro execute
    simp only [Rejection.sqlState, state, if_pos (named.mpr execute)]
    exact ⟨rfl, rfl⟩
  · intro other
    have unnamed := fun execute => other (named.mp execute)
    simp only [List.forall_mem_cons, Rejection.sqlState, state, if_neg unnamed]
    cases requirement.columns <;> simp

/-- A check for a grant and one for a use that are answered alike make the same
calls, and both admit, or reject alike without a denial, or deny in all but the
hint alike. -/
theorem checks_differ_by_hint {σ τ : Type} {respond : Responder σ}
    {other : Responder τ} {state : σ} {otherState : τ} (statement : Statement)
    (requirement : Requirement)
    (alike : AnsweredAlike
      (Entry.calls
        ((statement.check requirement true).play respond state).transcript)
      (Entry.calls
        ((statement.check requirement false).play other
          otherState).transcript)) :
    let forGrant := (statement.check requirement true).play respond state
    let forUse := (statement.check requirement false).play other otherState
    Entry.calls forGrant.transcript = Entry.calls forUse.transcript ∧
      (forGrant.value = .ok () ∧ forUse.value = .ok () ∨
        (∃ rejection, rejection.isDenial = false ∧
          forGrant.value = .error rejection ∧
          forUse.value = .error rejection) ∨
        ∃ denial : Denial,
          let toGrant : Rejection :=
            .permissionDenied { denial with forGrant := true }
          let toUse : Rejection :=
            .permissionDenied { denial with forGrant := false }
          forGrant.value = .error toGrant ∧ forUse.value = .error toUse ∧
            ToldApart requirement toGrant toUse) := by
  intro forGrant forUse
  obtain ⟨hinted, calls⟩ := (statement.hinted_check requirement).run alike
  refine ⟨calls, ?_⟩
  change HintOnly requirement forGrant.value forUse.value at hinted
  generalize forGrant.value = granted at hinted ⊢
  generalize forUse.value = used at hinted ⊢
  cases hinted with
  | admitted value => exact .inl ⟨rfl, rfl⟩
  | rejected undenied => exact .inr (.inl ⟨_, undenied, rfl, rfl⟩)
  | denied concerns =>
      exact .inr (.inr ⟨_, rfl, rfl, concerns.toldApart⟩)

/-- A function `CLOSE_BOOKS` that is granted to nobody. -/
def booksUngranted : List CatalogChange :=
  [.createSchema "APP" "dba", .createObject ⟨1⟩ "CLOSE_BOOKS" .function]

theorem clerk_told_apart_on_books :
    let stores : Stores := { catalog := Catalog.empty.run booksUngranted }
    let statement : Statement := { txn := ⟨1⟩, user := "clerk" }
    let checked forGrant :=
      (statement.check (.access ⟨2⟩ .execute) forGrant).play Stores.responder
        stores
    AnsweredAlike (Entry.calls (checked true).transcript)
        (Entry.calls (checked false).transcript) ∧
      ∃ toGrant toUse,
        (checked true).value = .error toGrant ∧
          (checked false).value = .error toUse ∧
          toGrant.message ≠ toUse.message ∧
          toGrant.sqlState = "42505" ∧ toUse.sqlState = "42504" := by
  intro stores statement checked
  have alike : AnsweredAlike (Entry.calls (checked true).transcript)
      (Entry.calls (checked false).transcript) :=
    (statement.hinted_check (.access ⟨2⟩ .execute)).answeredAlike _ stores
  have denied : ∃ denial,
      (checked true).value = .error (.permissionDenied denial) := by
    unfold checked statement
    exact ⟨_, rfl⟩
  obtain ⟨denial, denied⟩ := denied
  refine ⟨alike, ?_⟩
  obtain ⟨-, ⟨admitted, -⟩ | ⟨rejection, undenied, rejected, -⟩ |
      ⟨denial, toGrant, toUse, apart⟩⟩ :=
    checks_differ_by_hint statement (.access ⟨2⟩ .execute) alike
  · rw [show _ = _ from denied] at admitted
    contradiction
  · rw [show _ = _ from denied] at rejected
    cases rejected
    simp [Rejection.isDenial] at undenied
  · obtain ⟨granted, used⟩ := apart.ofExecute ⟨⟨2⟩, rfl⟩
    exact ⟨_, _, toGrant, toUse, apart.byText, granted, used⟩

end SqlAdmission
