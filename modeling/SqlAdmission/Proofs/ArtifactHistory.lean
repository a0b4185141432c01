import Mathlib.Data.List.Induction
import SqlAdmission.Artifact.Change
import SqlAdmission.Proofs.Standing

/-!
# Artifacts in a history

The artifact stored under a name is the last one deployed under it, unless that
name has been removed since.  It loads when it is not broken.
-/

namespace SqlAdmission

namespace ArtifactStore

/-- An artifact was deployed under a name, and the name was neither deployed
again nor removed since. -/
def Deployed (history : List ArtifactChange) (name : String)
    (artifact : Artifact) : Prop :=
  Standing
    (fun _ change => change = .deploy artifact ∧ artifact.name = name)
    (·.name = name) history

/-- The artifact stored under a name. -/
def artifact? (store : ArtifactStore) (name : String) : Option Artifact :=
  store.deployments[name]?.map (·.artifact)

theorem deployments_apply (store : ArtifactStore) (change : ArtifactChange)
    (name : String) :
    (store.apply change).deployments[name]? =
      match change with
      | .deploy artifact =>
        if artifact.name = name then some ⟨store.generation + 1, artifact⟩
        else store.deployments[name]?
      | .undeploy removed =>
        if removed = name then none else store.deployments[name]? := by
  cases change with
  | deploy artifact =>
      simp only [apply, deploy, Std.ExtTreeMap.getElem?_insert,
        Std.compare_eq_iff_eq]
  | undeploy removed =>
      simp only [apply, undeploy, Std.ExtTreeMap.getElem?_erase,
        Std.compare_eq_iff_eq]

theorem artifact?_apply (store : ArtifactStore) (change : ArtifactChange)
    (name : String) :
    (store.apply change).artifact? name =
      match change with
      | .deploy artifact =>
        if artifact.name = name then some artifact else store.artifact? name
      | .undeploy removed =>
        if removed = name then none else store.artifact? name := by
  rw [artifact?, deployments_apply]
  cases change with
  | deploy artifact =>
      simp only
      split <;> rfl
  | undeploy removed =>
      simp only
      split <;> rfl

/-- What is stored under a name is what stands deployed under it. -/
theorem artifact?_eq_some_iff_deployed {history : List ArtifactChange}
    {name : String} {artifact : Artifact} :
    (empty.run history).artifact? name = some artifact ↔
      Deployed history name artifact := by
  induction history using List.reverseRecOn with
  | nil => exact iff_of_false (by simp [empty, artifact?]) not_standing_nil
  | append_singleton history last induction =>
      unfold Deployed at induction ⊢
      rw [standing_append_singleton_iff, ← induction,
        run_append_singleton, artifact?_apply]
      cases last with
      | deploy added =>
          by_cases same : added.name = name
          · simp only [if_pos same, Option.some.injEq, ArtifactChange.name]
            constructor
            · intro equality
              subst equality
              exact .inl ⟨rfl, same⟩
            · intro standing
              rcases standing with ⟨equal, -⟩ | ⟨-, other⟩
              · exact ArtifactChange.deploy.inj equal
              · exact (other same).elim
          · simp only [if_neg same, ArtifactChange.name]
            constructor
            · intro old
              exact .inr ⟨old, same⟩
            · intro standing
              rcases standing with ⟨equal, named⟩ | ⟨old, -⟩
              · cases equal
                exact (same named).elim
              · exact old
      | undeploy removed =>
          by_cases same : removed = name <;>
            simp [same, ArtifactChange.name]

/-- A standing deployment is the one the store keeps under its name. -/
theorem deployed_iff_exists {history : List ArtifactChange} {name : String}
    {artifact : Artifact} :
    Deployed history name artifact ↔
      ∃ deployment, (empty.run history).deployments[name]? = some deployment ∧
        deployment.artifact = artifact := by
  rw [← artifact?_eq_some_iff_deployed, artifact?, Option.map_eq_some_iff]

theorem load_eq_ok_iff {store : ArtifactStore} {name : String}
    {handle : Handle} :
    store.load name = .ok handle ↔
      ∃ deployment, store.deployments[name]? = some deployment ∧
        deployment.artifact.defect = none ∧
          handle = ⟨name, deployment.generation⟩ := by
  unfold load
  cases store.deployments[name]? with
  | none => simp
  | some deployment =>
      cases broken : deployment.artifact.defect with
      | some reason => simp [broken]
      | none => simp [broken, eq_comm]

end ArtifactStore

end SqlAdmission
