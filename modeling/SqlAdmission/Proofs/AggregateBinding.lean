import SqlAdmission.Proofs.AggregateHistory
import SqlAdmission.Proofs.CatalogFiling
import SqlAdmission.Proofs.Implementation
import SqlAdmission.Statement.Bind

/-!
# Binding registered aggregates

A call of a user-defined aggregate is bound exactly when the aggregate stands
declared, the user may execute it, and the artifact deployed under the declared
name supplies the declared types.  What is bound is told by the declaration and
the type of the operand alone.
-/

namespace SqlAdmission

namespace Registration

variable {registration : Registration} {operand : DataType}
  {binding : Binding} {answers : (question : Question) → question.Answer}

/-- The arguments that an artifact supplies for the aggregator contract are
those of the declared types; the accumulator may be anything. -/
def Matches (registration : Registration) (arguments : TypeArguments) : Prop :=
  ∃ accumulator, arguments =
    [some (.ofDataType registration.inputType),
      some (.ofDataType registration.returnType), accumulator]

theorem suppliedTypes?_eq_some_iff {arguments : TypeArguments}
    {input result : Representation} :
    suppliedTypes? arguments = some (input, result) ↔
      ∃ accumulator, arguments = [some input, some result, accumulator] := by
  constructor
  · intro supplied
    unfold suppliedTypes? at supplied
    split at supplied
    · rename_i complete
      obtain ⟨first, second, third, rfl⟩ := List.length_eq_three.mp complete
      rw [Contract.argument?_aggregator_input,
        Contract.argument?_aggregator_result] at supplied
      cases first with
      | none => contradiction
      | some first =>
          cases second with
          | none => contradiction
          | some second =>
              cases supplied
              exact ⟨third, rfl⟩
    · contradiction
  · intro supplied
    obtain ⟨accumulator, rfl⟩ := supplied
    rfl

theorem judge_eq_ok_iff {arguments : Option TypeArguments} :
    registration.judge arguments operand = .ok binding ↔
      (∃ supplied, arguments = some supplied ∧ registration.Matches supplied) ∧
        binding = registration.binding operand := by
  have typed : (∃ supplied, arguments = some supplied ∧
        registration.Matches supplied) ↔
      arguments.bind suppliedTypes? =
        some (.ofDataType registration.inputType,
          .ofDataType registration.returnType) := by
    simp only [Option.bind_eq_some_iff, suppliedTypes?_eq_some_iff, Matches]
  rw [typed]
  unfold judge
  cases arguments.bind suppliedTypes? with
  | none => simp
  | some types =>
      obtain ⟨input, result⟩ := types
      by_cases sameInput : input = .ofDataType registration.inputType
      · by_cases sameResult : result = .ofDataType registration.returnType
        · simp [sameInput, sameResult, eq_comm]
        · simp [sameInput, sameResult]
      · simp [sameInput]

end Registration

variable {stores : Stores}

/-- Against the stores a call is bound when the artifact of the registered name
links and matches the registration. -/
theorem Stores.settle_bind_eq_ok_iff {registration : Registration}
    {operand : DataType} {binding : Binding} :
    (registration.bind operand).settle stores.answer = .ok binding ↔
      (∃ artifact, stores.artifacts.artifact? registration.implementation =
          some artifact ∧ artifact.defect = none ∧
        ∃ supplied, artifact.arguments? .aggregator = some supplied ∧
          registration.Matches supplied) ∧
        binding = registration.binding operand := by
  rw [← Stores.settle_eq, settle_registration_bind, ArtifactStore.supply_eq]
  unfold ArtifactStore.link
  cases stores.artifacts.artifact? registration.implementation with
  | none => simp [Except.map]
  | some artifact =>
      cases sound : artifact.defect with
      | some reason => simp [Except.map, sound]
      | none => simp [Except.map, sound, Registration.judge_eq_ok_iff]

/-- Against the stores a registered aggregate is bound when the check admits
the user and the registration is found and bound. -/
theorem Stores.settle_bindRegistered_eq_ok_iff {statement : Statement}
    {id : ObjectId} {operand : DataType} {binding : Binding} :
    stores.settle (statement.bindRegistered id operand) = .ok binding ↔
      stores.settle (statement.check (.access id .execute) false) = .ok () ∧
        ∃ registration,
          stores.catalog.find? (.registration id) = some registration ∧
            (registration.bind operand).settle stores.answer = .ok binding := by
  simp only [settle_eq]
  unfold Statement.bindRegistered
  rw [Decision.settle_bind]
  cases (statement.check (.access id .execute) false).settle stores.answer with
  | error rejection => simp [Except.bind]
  | ok passed =>
      have looked : (statement.lookup (.registration id)).settle stores.answer =
          .ok (stores.catalog.find? (.registration id)) :=
        Statement.settle_lookup (fun _ => rfl) _
      simp only [Decision.settle_bind, Except.bind, looked, true_and]
      cases stores.catalog.find? (.registration id) with
      | none => simp
      | some registration => simp

/-- The whole of a registered aggregate may be executed by the owner of the
database and by whoever holds the privilege without restriction. -/
theorem Stores.settle_check_execute_iff (sound : stores.catalog.Sound)
    (filed : stores.catalog.Filed) {statement : Statement} {id : ObjectId}
    {registration : Registration}
    (found : stores.catalog.find? (.registration id) = some registration) :
    stores.settle (statement.check (.access id .execute) false) = .ok () ↔
      statement.byOwner = true ∨
        ∃ grantee grant, statement.Heeds grantee ∧
          stores.catalog.find? (.grant id grantee) = some grant ∧
            grant.scope? .execute = some .everyColumn := by
  obtain ⟨row, rowFound, kind⟩ := sound.registrationLive found
  have covered : Access.execute.coverage
        (statement.applicable stores.catalog.find? id) = .complete ↔
      ∃ grantee grant, statement.Heeds grantee ∧
        stores.catalog.find? (.grant id grantee) = some grant ∧
          grant.scope? .execute = some .everyColumn := by
    rw [Access.coverage_eq_complete_iff]
    constructor
    · intro covering
      obtain ⟨grant, counted, whole⟩ := covering
      obtain ⟨grantee, heeded, stored⟩ := filed.mem_applicable_iff.mp counted
      exact ⟨grantee, grant, heeded, stored, whole⟩
    · intro holding
      obtain ⟨grantee, grant, heeded, stored, whole⟩ := holding
      exact ⟨grant, filed.mem_applicable_iff.mpr ⟨grantee, heeded, stored⟩,
        whole⟩
  rw [settle_check_access_iff, covered]
  constructor
  · intro passed
    obtain ⟨-, -, -, entitled⟩ := passed
    exact entitled
  · intro entitled
    exact ⟨row, rowFound, by rw [kind]; rfl, entitled⟩

open Catalog in
/-- A call of a registered aggregate is bound exactly when the aggregate stands
declared, the user owns the database or may execute the whole of it, and the
artifact deployed under the declared name links and matches the declaration.
The binding returns the declared type and casts an operand of another type than
the declared one. -/
theorem bindRegistered_eq_ok_iff {history : List CatalogChange}
    (few : (empty.issued history).length < 2 ^ 64)
    (deployments : List ArtifactChange) (statement : Statement) (id : ObjectId)
    (operand : DataType) (binding : Binding) :
    ({ catalog := empty.run history
       artifacts := ArtifactStore.empty.run deployments } : Stores).settle
        (statement.bindRegistered id operand) = .ok binding ↔
      ∃ registration, registration.id = id ∧ Declared history registration ∧
        (statement.byOwner = true ∨
          ∃ grantee grant, statement.Heeds grantee ∧
            (empty.run history).find? (.grant id grantee) = some grant ∧
              grant.scope? .execute = some .everyColumn) ∧
        (∃ artifact accumulator,
          ArtifactStore.Deployed deployments registration.implementation
            artifact ∧
          artifact.defect = none ∧
          artifact.arguments? .aggregator =
            some [some (.ofDataType registration.inputType),
              some (.ofDataType registration.returnType), accumulator]) ∧
        binding = {
          returnType := registration.returnType
          adapter := .userDefined
          operandCast :=
            if operand = registration.inputType then none
            else some registration.inputType } := by
  have sound := sound_run few
  have filed : (empty.run history).Filed := Reachable.filed ⟨history, rfl⟩
  rw [Stores.settle_bindRegistered_eq_ok_iff]
  constructor
  · intro settled
    obtain ⟨admitted, registration, found, bound⟩ := settled
    have named : registration.id = id :=
      filed (.registration id) registration found
    have entitled := (Stores.settle_check_execute_iff sound filed found).mp admitted
    obtain ⟨⟨artifact, stored, links, types, supplied, accumulator, rfl⟩, rfl⟩ :=
      Stores.settle_bind_eq_ok_iff.mp bound
    refine ⟨registration, named, ?_, entitled, ⟨artifact, accumulator, ?_,
      links, supplied⟩, rfl⟩
    · rw [← registration_iff_declared few, named]
      exact found
    · exact ArtifactStore.artifact?_eq_some_iff_deployed.mp stored
  · intro standing
    obtain ⟨registration, rfl, declared, entitled, implemented, rfl⟩ := standing
    obtain ⟨artifact, accumulator, deployed, links, supplied⟩ := implemented
    have found := (registration_iff_declared few).mpr declared
    have stored := ArtifactStore.artifact?_eq_some_iff_deployed.mpr deployed
    refine ⟨?_, registration, found, ?_⟩
    · exact (Stores.settle_check_execute_iff sound filed found).mpr entitled
    · exact Stores.settle_bind_eq_ok_iff.mpr
        ⟨⟨artifact, stored, links, _, supplied, accumulator, rfl⟩, rfl⟩

/-- An aggregate of doubles, which `clerk` may execute. -/
def spreadDeclared : List CatalogChange :=
  [.createSchema "APP" "dba",
    .createAggregate ⟨1⟩ "SPREAD" .double .double "stats.Spread",
    .grant (Grant.ofPrivileges "clerk" ⟨2⟩ [.execute] "dba")]

/-- Its implementation, deployed in the place of a broken one. -/
def spreadDeployed : List ArtifactChange :=
  [.deploy (Artifact.withDefect { name := "stats.Spread" } "truncated"),
    .deploy (Artifact.ofHostAggregator "stats.Spread"
      ⟨.float64, .float64, "Extent"⟩)]

theorem clerk_calls_spread :
    let statement : Statement := { txn := ⟨1⟩, user := "clerk" }
    (Catalog.empty.issued spreadDeclared).length < 2 ^ 64 ∧
      ({ catalog := Catalog.empty.run spreadDeclared
         artifacts := ArtifactStore.empty.run spreadDeployed } : Stores).settle
        (statement.bindRegistered ⟨2⟩ .int) =
          .ok ⟨.double, .userDefined, some .double⟩ := by
  intro statement
  have few : (Catalog.empty.issued spreadDeclared).length < 2 ^ 64 := by decide
  have declared : Catalog.Declared spreadDeclared
      ⟨⟨2⟩, "APP", "SPREAD", .double, .double, "stats.Spread"⟩ :=
    ⟨spreadDeclared.take 1, _, spreadDeclared.drop 2, rfl,
      ⟨⟨1⟩, ⟨⟨1⟩, "APP", "dba"⟩, rfl, rfl, rfl, rfl⟩, by simp [spreadDeclared]⟩
  have granted : (Catalog.empty.run spreadDeclared).find?
      (.grant ⟨2⟩ "clerk") =
        some (Grant.ofPrivileges "clerk" ⟨2⟩ [.execute] "dba") := by
    rfl
  have deployed : ArtifactStore.Deployed spreadDeployed "stats.Spread"
      (Artifact.ofHostAggregator "stats.Spread"
        ⟨.float64, .float64, "Extent"⟩) :=
    ⟨spreadDeployed.take 1, _, [], rfl, ⟨rfl, rfl⟩, by simp⟩
  refine ⟨few, ?_⟩
  rw [bindRegistered_eq_ok_iff few]
  exact ⟨_, rfl, declared,
    .inr ⟨"clerk", _, .inl rfl, granted, by decide⟩,
    ⟨_, _, deployed, rfl, rfl⟩, rfl⟩

end SqlAdmission
