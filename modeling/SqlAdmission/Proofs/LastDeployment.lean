import SqlAdmission.Proofs.StaleHandle

/-!
# The last deployment

All that is told about a name is what its last change has left under it: whether
something is deployed, how it loads, and how aggregates bind that it implements.
The number of its deployment is kept in every handle, and a handle that is used
right after it was loaded has the number that is asked for, so that numbers are
seen in handles only.
-/

namespace SqlAdmission

namespace ArtifactStore

variable (store : ArtifactStore) (name : String)

theorem contains_eq_isSome_artifact? :
    store.contains name = (store.artifact? name).isSome := by
  rw [contains, artifact?, Option.isSome_map,
    Std.ExtTreeMap.contains_eq_isSome_getElem?]

theorem remove_fst_eq_isSome_artifact? :
    (store.remove name).1 = (store.artifact? name).isSome := by
  rw [remove, artifact?, Option.isSome_map]

/-- But for the number in the handle, a name loads as the artifact stored under
it. -/
theorem load_map_name :
    (store.load name).map (·.name) =
      (link name (store.artifact? name)).map fun _ => name := by
  unfold load link artifact?
  cases store.deployments[name]? with
  | none => rfl
  | some deployment =>
      dsimp only [Option.map_some]
      cases deployment.artifact.defect with
      | some reason => rfl
      | none => rfl

end ArtifactStore

open ArtifactStore in
/-- Histories that leave the same artifact under a name, or none, are told apart
by nothing that asks for the name, but for the number in a handle.  A removal
tells whether something was left. -/
theorem last_deployment_decides {left right : List ArtifactChange}
    {name : String}
    (same : ∀ artifact, Deployed left name artifact ↔
      Deployed right name artifact) :
    let one := empty.run left
    let other := empty.run right
    one.contains name = other.contains name ∧
      (one.load name).map (·.name) = (other.load name).map (·.name) ∧
      (∀ (registration : Registration) (operand : DataType)
        (catalog another : Catalog), registration.implementation = name →
          ({ catalog, artifacts := one } : Stores).settle
              (registration.bind operand) =
            ({ catalog := another, artifacts := other } : Stores).settle
              (registration.bind operand)) ∧
      ((one.remove name).1 = true ↔
        ∃ artifact, Deployed left name artifact) ∧
      (one.remove name).2 = empty.run (left ++ [.undeploy name]) := by
  intro one other
  have stored : one.artifact? name = other.artifact? name := by
    apply Option.ext
    intro artifact
    rw [artifact?_eq_some_iff_deployed, artifact?_eq_some_iff_deployed]
    exact same artifact
  refine ⟨?_, ?_, ?_, ?_, ?_⟩
  · rw [contains_eq_isSome_artifact?, contains_eq_isSome_artifact?, stored]
  · rw [load_map_name, load_map_name, stored]
  · rintro registration operand catalog another rfl
    rw [Stores.settle_registration_bind, Stores.settle_registration_bind]
    dsimp only
    rw [supply_eq, supply_eq, stored]
  · rw [remove_fst_eq_isSome_artifact?, Option.isSome_iff_exists]
    simp only [one, artifact?_eq_some_iff_deployed]
  · exact (run_append_singleton empty left (.undeploy name)).symm

/-- The implementation is deployed again, between deployments of another. -/
def spreadDeployedAmongOthers : List ArtifactChange :=
  [.deploy spreadArtifact, .deploy { name := "stats.Mode" },
    .undeploy "stats.Spread", .deploy spreadArtifact, .undeploy "stats.Mode"]

theorem spread_among_others_binds_alike :
    let alone := ArtifactStore.empty.run [.deploy spreadArtifact]
    let among := ArtifactStore.empty.run spreadDeployedAmongOthers
    let registration : Registration :=
      ⟨⟨2⟩, "APP", "SPREAD", .double, .double, "stats.Spread"⟩
    (∀ artifact,
      ArtifactStore.Deployed [.deploy spreadArtifact] "stats.Spread" artifact ↔
        ArtifactStore.Deployed spreadDeployedAmongOthers "stats.Spread"
          artifact) ∧
      alone.load "stats.Spread" = .ok ⟨"stats.Spread", 1⟩ ∧
      among.load "stats.Spread" = .ok ⟨"stats.Spread", 3⟩ ∧
      Stores.settle { artifacts := among } (registration.bind .double) =
        .ok (registration.binding .double) := by
  intro alone among registration
  have same (artifact : Artifact) :
      ArtifactStore.Deployed [.deploy spreadArtifact] "stats.Spread" artifact ↔
        ArtifactStore.Deployed spreadDeployedAmongOthers "stats.Spread"
          artifact := by
    rw [← ArtifactStore.artifact?_eq_some_iff_deployed,
      ← ArtifactStore.artifact?_eq_some_iff_deployed]
    rfl
  have bound : Stores.settle { artifacts := alone } (registration.bind .double) =
      .ok (registration.binding .double) := by
    unfold alone registration
    rfl
  obtain ⟨-, -, alike, -⟩ := last_deployment_decides same
  refine ⟨same, by decide, by decide, ?_⟩
  rw [← bound]
  exact (alike registration .double {} {} rfl).symm

end SqlAdmission
