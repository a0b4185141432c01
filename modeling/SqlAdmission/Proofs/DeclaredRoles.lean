import SqlAdmission.Proofs.AggregateBinding
import SqlAdmission.Proofs.StaleHandle

/-!
# Roles of declared contracts

An artifact keeps the arguments it declares for a contract under the name of that
contract, without its roles.  A declaration for another contract of the name of
the aggregator contract is therefore read by position, as one for the aggregator
contract is, and the two agree on which argument is the input only if they list
the same roles.
-/

namespace SqlAdmission

namespace Artifact

/-- The last declaration for a contract of the same name. -/
def lastDeclaration? (declarations : List (Contract × TypeArguments))
    (contract : Contract) : Option (Contract × TypeArguments) :=
  declarations.reverse.find? (·.1.name = contract.name)

theorem lastDeclared_eq_some_iff
    {declarations : List (Contract × TypeArguments)} {contract : Contract}
    {arguments : TypeArguments} :
    lastDeclared declarations contract = some arguments ↔
      ∃ declared,
        lastDeclaration? declarations contract = some (declared, arguments) := by
  simp [lastDeclared, lastDeclaration?]

theorem name_of_lastDeclaration?
    {declarations : List (Contract × TypeArguments)}
    {contract declared : Contract} {arguments : TypeArguments}
    (last : lastDeclaration? declarations contract =
      some (declared, arguments)) :
    declared.name = contract.name := by
  simpa using List.find?_some last

end Artifact

namespace Registration

variable {registration : Registration} {arguments : TypeArguments}

/-- Some arguments for a contract bind its input and its result to the declared
types. -/
def FitsRoles (registration : Registration) (contract : Contract)
    (arguments : TypeArguments) : Prop :=
  contract.argument? .input arguments =
      some (.ofDataType registration.inputType) ∧
    contract.argument? .result arguments =
      some (.ofDataType registration.returnType)

theorem matches_iff_fitsRoles :
    registration.Matches arguments ↔
      arguments.length = Contract.aggregator.arity ∧
        registration.FitsRoles .aggregator arguments := by
  constructor
  · intro fits
    obtain ⟨accumulator, rfl⟩ := fits
    exact ⟨rfl, rfl, rfl⟩
  · intro fits
    obtain ⟨complete, input, result⟩ := fits
    obtain ⟨first, second, third, rfl⟩ := List.length_eq_three.mp complete
    rw [Contract.argument?_aggregator_input] at input
    rw [Contract.argument?_aggregator_result] at result
    exact ⟨third, by rw [input, result]⟩

end Registration

section Deployed

variable {artifact : Artifact}
  {declarations : List (Contract × TypeArguments)} {stores : Stores}
  {registration : Registration} {operand : DataType}

theorem Stores.exists_settle_bind_iff
    (declared : artifact.DeclaredBy declarations)
    (stored : stores.artifacts.artifact? registration.implementation =
      some artifact) :
    (∃ binding, stores.settle (registration.bind operand) = .ok binding) ↔
      artifact.defect = none ∧ ∃ contract arguments,
        Artifact.lastDeclaration? declarations .aggregator =
          some (contract, arguments) ∧
        arguments.length = Contract.aggregator.arity ∧
        registration.FitsRoles .aggregator arguments := by
  simp only [settle_eq]
  constructor
  · intro bound
    obtain ⟨binding, bound⟩ := bound
    obtain ⟨⟨found, same, links, arguments, supplied, fits⟩, -⟩ :=
      settle_bind_eq_ok_iff.mp bound
    rw [stored] at same
    cases same
    rw [declared.arguments?_eq, Artifact.lastDeclared_eq_some_iff] at supplied
    obtain ⟨contract, last⟩ := supplied
    exact ⟨links, contract, arguments, last,
      Registration.matches_iff_fitsRoles.mp fits⟩
  · intro standing
    obtain ⟨links, contract, arguments, last, fits⟩ := standing
    have supplied : artifact.arguments? .aggregator = some arguments := by
      rw [declared.arguments?_eq, Artifact.lastDeclared_eq_some_iff]
      exact ⟨contract, last⟩
    exact ⟨registration.binding operand, settle_bind_eq_ok_iff.mpr
      ⟨⟨artifact, stored, links, arguments, supplied,
        Registration.matches_iff_fitsRoles.mpr fits⟩, rfl⟩⟩

end Deployed

/-- A deployed artifact is bound by the last declaration under the name of the
aggregator contract, whose arguments are read in the roles of that contract
whatever the declared roles are.  What is bound was declared for the aggregator
contract itself, and fits in the declared roles, exactly when the declared roles
are those of the aggregator contract. -/
theorem bound_by_aggregator_roles {artifact : Artifact}
    {declarations : List (Contract × TypeArguments)}
    (declared : artifact.DeclaredBy declarations)
    {deployments : List ArtifactChange} {registration : Registration}
    (deployed : ArtifactStore.Deployed deployments registration.implementation
      artifact) (catalog : Catalog) (operand : DataType) :
    let stores : Stores :=
      { catalog, artifacts := ArtifactStore.empty.run deployments }
    let Bound :=
      ∃ binding, stores.settle (registration.bind operand) = .ok binding
    let last := Artifact.lastDeclaration? declarations .aggregator
    (Bound ↔
      artifact.defect = none ∧ ∃ contract arguments,
        last = some (contract, arguments) ∧
        arguments.length = Contract.aggregator.arity ∧
        registration.FitsRoles .aggregator arguments) ∧
    (Bound → ∀ contract arguments, last = some (contract, arguments) →
      (contract = .aggregator ∧ registration.FitsRoles contract arguments ↔
        contract.roles = Contract.aggregator.roles)) := by
  intro stores Bound last
  have stored : stores.artifacts.artifact? registration.implementation =
      some artifact :=
    ArtifactStore.artifact?_eq_some_iff_deployed.mpr deployed
  have bound_iff : Bound ↔ _ := stores.exists_settle_bind_iff declared stored
  refine ⟨bound_iff, ?_⟩
  intro bound contract arguments declaredLast
  obtain ⟨-, _, _, sameLast, -, fits⟩ := bound_iff.mp bound
  cases declaredLast.symm.trans sameLast
  constructor
  · intro served
    rw [served.1]
  · intro sameRoles
    -- The search has fixed the name already.
    have sameContract : contract = .aggregator := by
      have sameName := Artifact.name_of_lastDeclaration? declaredLast
      cases contract
      cases sameName
      cases sameRoles
      rfl
    rw [sameContract]
    exact ⟨rfl, fits⟩

/-- The parameters of the aggregator contract in another order. -/
def Contract.resultFirst : Contract :=
  ⟨"Aggregator", [.result, .input, .accumulator]⟩

/-- An implementation that was built for the parameters in the other order
before, and now for the aggregator contract. -/
def rebuiltTotal : List (Contract × TypeArguments) :=
  [(.resultFirst, [some .int32, some .int64, none]),
    (.aggregator, [some .int64, some .int32, none])]

theorem rebuilt_total_bound_in_its_roles :
    let artifact := Artifact.declareAll { name := "acme.Total" } rebuiltTotal
    let registration : Registration :=
      ⟨⟨2⟩, "APP", "TOTAL", .bigInt, .int, "acme.Total"⟩
    let stores : Stores :=
      { artifacts := ArtifactStore.empty.run [.deploy artifact] }
    artifact.DeclaredBy rebuiltTotal ∧
      ArtifactStore.Deployed [.deploy artifact] "acme.Total" artifact ∧
      (∃ binding,
        stores.settle (registration.bind .bigInt) = .ok binding) ∧
      registration.FitsRoles .aggregator [some .int64, some .int32, none] := by
  intro artifact registration stores
  have declared : artifact.DeclaredBy rebuiltTotal := rfl
  have deployed : ArtifactStore.Deployed [.deploy artifact]
      registration.implementation artifact :=
    ⟨[], _, [], rfl, ⟨rfl, rfl⟩, by simp⟩
  have last : Artifact.lastDeclaration? rebuiltTotal .aggregator =
      some (.aggregator, [some .int64, some .int32, none]) := rfl
  obtain ⟨bound_iff, roles_iff⟩ :=
    bound_by_aggregator_roles declared deployed {} .bigInt
  have bound := bound_iff.mpr ⟨rfl, _, _, last, rfl, rfl, rfl⟩
  exact ⟨declared, deployed, bound, ((roles_iff bound _ _ last).mpr rfl).2⟩

/-- An implementation that takes 32 bits and returns 64 is bound as one that
takes 64 and returns 32, because it declares its result before its input. -/
theorem swapped_total_bound :
    let declarations : List (Contract × TypeArguments) :=
      [(.resultFirst, [some .int64, some .int32, none])]
    let artifact := Artifact.declareAll { name := "acme.Total" } declarations
    let registration : Registration :=
      ⟨⟨2⟩, "APP", "TOTAL", .bigInt, .int, "acme.Total"⟩
    let stores : Stores :=
      { artifacts := ArtifactStore.empty.run [.deploy artifact] }
    artifact.DeclaredBy declarations ∧
      stores.settle (registration.bind .bigInt) =
        .ok (registration.binding .bigInt) ∧
      (∀ declaration ∈ declarations, declaration.1 ≠ .aggregator) ∧
      Contract.resultFirst.argument? .input [some .int64, some .int32, none] ≠
        some (.ofDataType registration.inputType) := by
  intro declarations artifact registration stores
  refine ⟨rfl, by decide, by decide, by decide⟩

end SqlAdmission
