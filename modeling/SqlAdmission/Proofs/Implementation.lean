import SqlAdmission.Aggregate.Registered
import SqlAdmission.Proofs.ArtifactHistory
import SqlAdmission.Proofs.Calls
import SqlAdmission.Proofs.Settlement

/-!
# Implementations

Binding an aggregate judges what its implementation supplies.  Against the stores
this is told by the artifact stored under the name of the implementation, since
the artifact is inspected right after it was loaded.
-/

namespace SqlAdmission

namespace Registration

theorem value_loaded_bind {σ α β : Type} (registration : Registration)
    (respond : Responder σ) (state : σ) (answer : Except LoadError α)
    (next : α → Decision β) :
    ((registration.loaded answer >>= next).play respond state).value =
      match answer with
      | .ok value => ((next value).play respond state).value
      | .error error => .error (registration.loadFailure error) := by
  cases answer with
  | ok value => rfl
  | error error => rfl

/-- Binding judges what the loader answers, unless a call of it fails. -/
theorem value_bind {σ : Type} (respond : Responder σ) (state : σ)
    (registration : Registration) (operand : DataType) :
    ((registration.bind operand).play respond state).value =
      let load := respond (.load registration.implementation) state
      match load.answer with
      | .error error => .error (registration.loadFailure error)
      | .ok handle =>
        match (respond (.arguments handle .aggregator) load.state).answer with
        | .error error => .error (registration.loadFailure error)
        | .ok arguments => registration.judge arguments operand := by
  unfold bind
  rw [Decision.value_query_bind, value_loaded_bind]
  dsimp only
  cases (respond (.load registration.implementation) state).answer with
  | error error => rfl
  | ok handle =>
      dsimp only
      rw [Decision.value_query_bind, value_loaded_bind]
      split
      · rename_i arguments answered
        rw [answered]
        dsimp only
        cases registration.judge arguments operand with
        | error rejection => rfl
        | ok binding => rfl
      · rename_i error answered
        rw [answered]

end Registration

namespace ArtifactStore

/-- What loading a name comes to, by the artifact stored under it. -/
def link (name : String) : Option Artifact → Except LoadError Artifact
  | none => .error (.classNotFound name)
  | some artifact =>
    match artifact.defect with
    | some reason => .error (.linkage name reason)
    | none => .ok artifact

variable (store : ArtifactStore) (name : String)

/-- What a name supplies for a contract: it is loaded and inspected at once. -/
def supply (contract : Contract) : Except LoadError (Option TypeArguments) :=
  (store.load name).bind fun handle => store.arguments handle contract

/-- A handle that is inspected at once has the number that is stored. -/
theorem supply_eq (contract : Contract) :
    store.supply name contract =
      (link name (store.artifact? name)).map (·.arguments? contract) := by
  unfold supply load link artifact?
  cases found : store.deployments[name]? with
  | none => rfl
  | some deployment =>
      dsimp only [Option.map_some]
      cases deployment.artifact.defect with
      | some reason => rfl
      | none => simp [Except.bind, Except.map, arguments, found]

end ArtifactStore

/-- Binding judges what the implementation supplies, if it can be told. -/
theorem Stores.settle_registration_bind (stores : Stores)
    (registration : Registration) (operand : DataType) :
    stores.settle (registration.bind operand) =
      match stores.artifacts.supply registration.implementation .aggregator with
      | .error error => .error (registration.loadFailure error)
      | .ok arguments => registration.judge arguments operand := by
  have judged : stores.settle (registration.bind operand) = _ :=
    registration.value_bind responder stores operand
  rw [judged, ArtifactStore.supply]
  dsimp only [responder, answer]
  cases stores.artifacts.load registration.implementation with
  | error error => rfl
  | ok handle =>
      dsimp only [Except.bind]
      cases stores.artifacts.arguments handle .aggregator with
      | error error => rfl
      | ok arguments => rfl

end SqlAdmission
