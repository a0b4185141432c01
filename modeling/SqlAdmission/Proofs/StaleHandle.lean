import Mathlib.Algebra.Group.Nat.Defs
import SqlAdmission.Proofs.Implementation

/-!
# Stale handles

A handle tells the number of the deployment it was loaded from, and no two
deployments have the same number, not even of one artifact.  What is deployed
under a name after a handle was loaded therefore has another number than the
handle, so that a handle is answered from the artifact it was loaded from or
not at all.  Binding an aggregate loads and inspects in two steps, and is as
safe against changes in between.
-/

namespace SqlAdmission

/-! ## Declared contracts -/

namespace Artifact

/-- The artifact with the arguments for some contracts declared in order. -/
def declareAll (artifact : Artifact)
    (declarations : List (Contract × TypeArguments)) : Artifact :=
  declarations.foldl
    (fun artifact declaration =>
      artifact.declare declaration.1 declaration.2) artifact

/-- The arguments of the last declaration for a contract of the same name. -/
def lastDeclared (declarations : List (Contract × TypeArguments))
    (contract : Contract) : Option TypeArguments :=
  (declarations.reverse.find? (·.1.name = contract.name)).map (·.2)

/-- The contracts of an artifact are those declared in order, starting from an
artifact that implements none. -/
def DeclaredBy (artifact : Artifact)
    (declarations : List (Contract × TypeArguments)) : Prop :=
  artifact.contracts =
    (declareAll { name := artifact.name } declarations).contracts

theorem arguments?_declare (artifact : Artifact) (declared contract : Contract)
    (arguments : TypeArguments) :
    (artifact.declare declared arguments).arguments? contract =
      if declared.name = contract.name then some arguments
      else artifact.arguments? contract := by
  simp only [declare, arguments?, Std.ExtTreeMap.getElem?_insert,
    Std.compare_eq_iff_eq]

theorem arguments?_declareAll (artifact : Artifact)
    (declarations : List (Contract × TypeArguments)) (contract : Contract) :
    (artifact.declareAll declarations).arguments? contract =
      (lastDeclared declarations contract).or
        (artifact.arguments? contract) := by
  induction declarations using List.reverseRecOn with
  | nil => rfl
  | append_singleton declarations last induction =>
      rw [declareAll, List.foldl_concat, ← declareAll, arguments?_declare,
        induction]
      by_cases named : last.1.name = contract.name
      · simp [lastDeclared, named]
      · simp [lastDeclared, named]

theorem DeclaredBy.arguments?_eq {artifact : Artifact}
    {declarations : List (Contract × TypeArguments)}
    (declared : artifact.DeclaredBy declarations) (contract : Contract) :
    artifact.arguments? contract = lastDeclared declarations contract := by
  have unfolded := arguments?_declareAll { name := artifact.name } declarations
    contract
  rw [arguments?, ← declared] at unfolded
  rw [arguments?, unfolded]
  simp [arguments?]

/-- Every artifact can be put together by declarations. -/
theorem exists_declaredBy (artifact : Artifact) :
    ∃ declarations, artifact.DeclaredBy declarations := by
  let declarations : List (Contract × TypeArguments) :=
    artifact.contracts.toList.map fun entry => (⟨entry.1, []⟩, entry.2)
  refine ⟨declarations, Std.ExtTreeMap.ext_getElem? fun name => ?_⟩
  have declared := arguments?_declareAll { name := artifact.name } declarations
    ⟨name, []⟩
  change (declareAll _ declarations).contracts[name]? =
    (lastDeclared declarations ⟨name, []⟩).or none at declared
  rw [declared, Option.or_none]
  have listed : ∀ declaration ∈ declarations,
      artifact.contracts[declaration.1.name]? = some declaration.2 := by
    intro declaration member
    obtain ⟨entry, inMap, rfl⟩ := List.mem_map.mp member
    exact Std.ExtTreeMap.mem_toList_iff_getElem?_eq_some.mp inMap
  unfold lastDeclared
  cases last : declarations.reverse.find? (·.1.name = name) with
  | some declaration =>
      have named : declaration.1.name = name := by
        simpa using List.find?_some last
      have member := List.mem_reverse.mp (List.mem_of_find?_eq_some last)
      rw [← named]
      exact listed declaration member
  | none =>
      -- A stored name would have been declared.
      cases stored : artifact.contracts[name]? with
      | none => rfl
      | some arguments =>
          have member : (⟨name, []⟩, arguments) ∈ declarations :=
            List.mem_map.mpr ⟨(name, arguments),
              Std.ExtTreeMap.mem_toList_iff_getElem?_eq_some.mpr stored, rfl⟩
          have unnamed := List.find?_eq_none.mp last _
            (List.mem_reverse.mpr member)
          simp at unnamed

end Artifact

/-! ## Numbers of deployments -/

def ArtifactChange.isDeployment : ArtifactChange → Bool
  | deploy _ => true
  | undeploy _ => false

namespace ArtifactStore

variable {store : ArtifactStore} {change : ArtifactChange}
  {changes : List ArtifactChange} {name : String} {deployment : Deployment}

/-- How many of some changes are deployments. -/
def deploymentCount (changes : List ArtifactChange) : Nat :=
  changes.countP (·.isDeployment)

/-- Numbers are left for the deployments among some changes. -/
def HasRoom (store : ArtifactStore) (changes : List ArtifactChange) : Prop :=
  store.generation.toNat + deploymentCount changes < 2 ^ 64

/-- Every deployment has a number that has been given out. -/
def Numbered (store : ArtifactStore) : Prop :=
  ∀ (name : String) (deployment : Deployment),
    store.deployments[name]? = some deployment →
      deployment.generation.toNat ≤ store.generation.toNat

/-- Some change deploys or removes a name. -/
def Touches (changes : List ArtifactChange) (name : String) : Prop :=
  ∃ change ∈ changes, change.name = name

theorem touches_cons_iff :
    Touches (change :: changes) name ↔
      change.name = name ∨ Touches changes name := by
  simp [Touches]

@[simp] theorem deploymentCount_deploy (artifact : Artifact)
    (changes : List ArtifactChange) :
    deploymentCount (.deploy artifact :: changes) =
      deploymentCount changes + 1 :=
  List.countP_cons_of_pos rfl

theorem toNat_generation_deploy {artifact : Artifact}
    (room : store.HasRoom (.deploy artifact :: changes)) :
    (store.generation + 1).toNat = store.generation.toNat + 1 := by
  unfold HasRoom at room
  rw [deploymentCount_deploy] at room
  rw [UInt64.toNat_add, UInt64.toNat_one, Nat.mod_eq_of_lt (by omega)]

theorem HasRoom.apply (room : store.HasRoom (change :: changes)) :
    (store.apply change).HasRoom changes ∧
      store.generation.toNat ≤ (store.apply change).generation.toNat := by
  cases change with
  | undeploy removed => exact ⟨room, Nat.le_refl _⟩
  | deploy artifact =>
      have next := toNat_generation_deploy room
      unfold HasRoom at room ⊢
      rw [deploymentCount_deploy] at room
      change (store.generation + 1).toNat + _ < _ ∧
        _ ≤ (store.generation + 1).toNat
      rw [next]
      omega

theorem deployments_apply_of_ne (other : change.name ≠ name) :
    (store.apply change).deployments[name]? = store.deployments[name]? := by
  rw [deployments_apply]
  cases change with
  | deploy artifact => exact if_neg other
  | undeploy removed => exact if_neg other

/-- What a change leaves under its own name has just been deployed. -/
theorem deployments_apply_of_eq (same : change.name = name)
    (found : (store.apply change).deployments[name]? = some deployment) :
    ∃ artifact, change = .deploy artifact ∧
      deployment = ⟨store.generation + 1, artifact⟩ := by
  rw [deployments_apply] at found
  cases change with
  | deploy artifact =>
      simp only [if_pos (show artifact.name = name from same),
        Option.some.injEq] at found
      exact ⟨artifact, rfl, found.symm⟩
  | undeploy removed =>
      simp only [if_pos (show removed = name from same)] at found
      contradiction

theorem numbered_empty : empty.Numbered := by
  intro name deployment found
  simp [empty] at found

theorem Numbered.apply (numbered : store.Numbered)
    (room : store.HasRoom (change :: changes)) :
    (store.apply change).Numbered := by
  intro name deployment found
  by_cases same : change.name = name
  · obtain ⟨artifact, rfl, rfl⟩ := deployments_apply_of_eq same found
    exact Nat.le_refl _
  · rw [deployments_apply_of_ne same] at found
    exact Nat.le_trans (numbered _ _ found) room.apply.2

theorem Numbered.run (numbered : store.Numbered)
    (room : store.HasRoom changes) : (store.run changes).Numbered := by
  induction changes generalizing store with
  | nil => exact numbered
  | cons change changes induction =>
      exact induction (numbered.apply room) room.apply.1

theorem HasRoom.left {later : List ArtifactChange}
    (room : store.HasRoom (changes ++ later)) : store.HasRoom changes := by
  unfold HasRoom deploymentCount at room ⊢
  rw [List.countP_append] at room
  omega

theorem HasRoom.run {later : List ArtifactChange}
    (room : store.HasRoom (changes ++ later)) :
    (store.run changes).HasRoom later := by
  induction changes generalizing store with
  | nil => exact room
  | cons change changes induction => exact induction room.apply.1

theorem deployments_run_of_not_touches (store : ArtifactStore)
    (untouched : ¬Touches changes name) :
    (store.run changes).deployments[name]? = store.deployments[name]? := by
  induction changes generalizing store with
  | nil => rfl
  | cons change changes induction =>
      rw [touches_cons_iff, not_or] at untouched
      obtain ⟨other, rest⟩ := untouched
      rw [run_cons, induction (store.apply change) rest,
        deployments_apply_of_ne other]

/-- What is found under a touched name has a number given out since. -/
theorem generation_lt_of_touches (room : store.HasRoom changes)
    (touched : Touches changes name)
    (found : (store.run changes).deployments[name]? = some deployment) :
    store.generation.toNat < deployment.generation.toNat := by
  induction changes generalizing store with
  | nil =>
      obtain ⟨change, member, -⟩ := touched
      simp at member
  | cons change changes induction =>
      by_cases rest : Touches changes name
      · exact Nat.lt_of_le_of_lt room.apply.2
          (induction room.apply.1 rest found)
      · have same := (touches_cons_iff.mp touched).resolve_right rest
        rw [run_cons, deployments_run_of_not_touches _ rest] at found
        obtain ⟨artifact, rfl, rfl⟩ := deployments_apply_of_eq same found
        rw [toNat_generation_deploy room]
        exact Nat.lt_succ_self _

/-- What is found under a touched name has a greater number than what was found
there before. -/
theorem Numbered.lt_of_touches (numbered : store.Numbered)
    (room : store.HasRoom changes) (touched : Touches changes name)
    {current : Deployment} (found : store.deployments[name]? = some deployment)
    (present : (store.run changes).deployments[name]? = some current) :
    deployment.generation.toNat < current.generation.toNat :=
  Nat.lt_of_le_of_lt (numbered _ _ found)
    (generation_lt_of_touches room touched present)

/-- What a handle loaded between earlier and later changes is answered after
them, if the artifact it was loaded from supplies some arguments. -/
structure Inspection (earlier later : List ArtifactChange) (handle : Handle)
    (supplied : Option TypeArguments)
    (answer : Except LoadError (Option TypeArguments)) : Prop where
  current : ¬Touches later handle.name → answer = .ok supplied
  removed : Touches later handle.name →
    (∀ artifact, ¬Deployed (earlier ++ later) handle.name artifact) →
      answer = .error (.classNotFound handle.name)
  /-- Whatever the new artifact is, also if it is the one that was loaded. -/
  replaced : Touches later handle.name →
    ∀ artifact, Deployed (earlier ++ later) handle.name artifact →
      ∃ generation : UInt64, handle.generation.toNat < generation.toNat ∧
        answer = .error (.linkage handle.name
          (arguments.redeployed handle.generation generation))

theorem Inspection.error_of_touches {earlier later : List ArtifactChange}
    {handle : Handle} {supplied : Option TypeArguments}
    {answer : Except LoadError (Option TypeArguments)}
    (inspection : Inspection earlier later handle supplied answer)
    (touched : Touches later handle.name) : ∃ error, answer = .error error := by
  by_cases present : ∃ artifact, Deployed (earlier ++ later) handle.name artifact
  · obtain ⟨artifact, deployed⟩ := present
    obtain ⟨generation, -, answered⟩ :=
      inspection.replaced touched artifact deployed
    exact ⟨_, answered⟩
  · exact ⟨_, inspection.removed touched (not_exists.mp present)⟩

/-- A loaded handle is inspected as the artifact that stood deployed when it was
loaded, or refused. -/
theorem inspection_run {earlier later : List ArtifactChange}
    (few : deploymentCount (earlier ++ later) < 2 ^ 64) {handle : Handle}
    (loaded : (empty.run earlier).load name = .ok handle) :
    handle.name = name ∧
      ∃ artifact, Deployed earlier name artifact ∧ artifact.defect = none ∧
        ∀ contract, Inspection earlier later handle
          (artifact.arguments? contract)
          ((empty.run (earlier ++ later)).arguments handle contract) := by
  have room : empty.HasRoom (earlier ++ later) := by
    unfold HasRoom
    rw [show empty.generation.toNat = 0 from rfl, Nat.zero_add]
    exact few
  have numbered := numbered_empty.run room.left
  obtain ⟨deployment, found, sound, rfl⟩ := load_eq_ok_iff.mp loaded
  refine ⟨rfl, deployment.artifact,
    deployed_iff_exists.mpr ⟨deployment, found, rfl⟩, sound, fun contract => ?_⟩
  constructor
  · intro untouched
    have kept := deployments_run_of_not_touches (empty.run earlier) untouched
    rw [run_append]
    simp [arguments, kept, found]
  · intro touched gone
    have absent : (empty.run (earlier ++ later)).deployments[name]? = none := by
      cases present : (empty.run (earlier ++ later)).deployments[name]? with
      | none => rfl
      | some current =>
          have standing := deployed_iff_exists.mpr ⟨current, present, rfl⟩
          exact (gone current.artifact standing).elim
    simp [arguments, absent]
  · intro touched artifact redeployed
    obtain ⟨current, present, -⟩ := deployed_iff_exists.mp redeployed
    rw [run_append] at present
    have newer := numbered.lt_of_touches room.run touched found present
    have renumbered : current.generation ≠ deployment.generation := by
      intro same
      rw [same] at newer
      exact Nat.lt_irrefl _ newer
    refine ⟨current.generation, newer, ?_⟩
    rw [run_append]
    simp [arguments, present, renumbered]

end ArtifactStore

/-! ## Binding while artifacts change -/

/-- The stores as a responder whose artifacts change in some way as soon as one
has been loaded. -/
def Stores.overtaken (changes : List ArtifactChange) : Responder Stores
  | .load name, stores =>
    { answer := stores.artifacts.load name
      state := { stores with artifacts := stores.artifacts.run changes } }
  | question, stores => { answer := stores.answer question, state := stores }

namespace Registration

/-- Binding judges what is told after the changes of the artifact loaded before
them. -/
theorem value_bind_overtaken (registration : Registration) (operand : DataType)
    (changes : List ArtifactChange) (stores : Stores) :
    ((registration.bind operand).play (Stores.overtaken changes) stores).value =
      match stores.artifacts.load registration.implementation with
      | .error error => .error (registration.loadFailure error)
      | .ok handle =>
        match (stores.artifacts.run changes).arguments handle .aggregator with
        | .error error => .error (registration.loadFailure error)
        | .ok arguments => registration.judge arguments operand := by
  rw [value_bind]
  simp only [Stores.overtaken, Stores.answer]
  cases stores.artifacts.load registration.implementation with
  | error error => rfl
  | ok handle =>
      dsimp only
      cases (stores.artifacts.run changes).arguments handle .aggregator with
      | error error => rfl
      | ok arguments => rfl

end Registration

open ArtifactStore in
/-- A handle is answered from the artifact it was loaded from as long as the
name of that artifact is neither deployed again nor removed, and fails from
then on.  Changes between the loading and the inspection of an implementation
therefore either leave the binding as it is or make it fail to load. -/
theorem stale_handle_refused {earlier later : List ArtifactChange}
    (few : deploymentCount (earlier ++ later) < 2 ^ 64) :
    (∀ name handle, (empty.run earlier).load name = .ok handle →
      handle.name = name ∧
        ∃ artifact, Deployed earlier name artifact ∧ artifact.defect = none ∧
          (∃ declarations, artifact.DeclaredBy declarations) ∧
          ∀ declarations, artifact.DeclaredBy declarations → ∀ contract,
            Inspection earlier later handle
              (Artifact.lastDeclared declarations contract)
              ((empty.run (earlier ++ later)).arguments handle contract)) ∧
    ∀ (registration : Registration) (operand : DataType) (catalog : Catalog),
      let loaded := (empty.run earlier).load registration.implementation
      let bound := ((registration.bind operand).play (Stores.overtaken later)
        { catalog, artifacts := empty.run earlier }).value
      (Touches later registration.implementation →
        ∃ error, bound = .error (registration.loadFailure error)) ∧
      (¬Touches later registration.implementation →
        (∃ error, loaded = .error error ∧
          bound = .error (registration.loadFailure error)) ∨
        ∃ artifact, Deployed earlier registration.implementation artifact ∧
          artifact.defect = none ∧
          ∀ declarations, artifact.DeclaredBy declarations →
            bound = registration.judge
              (Artifact.lastDeclared declarations .aggregator) operand) := by
  constructor
  · intro name handle loaded
    obtain ⟨named, artifact, deployed, sound, inspection⟩ :=
      inspection_run few loaded
    refine ⟨named, artifact, deployed, sound, artifact.exists_declaredBy, ?_⟩
    intro declarations declared contract
    rw [← declared.arguments?_eq]
    exact inspection contract
  · intro registration operand catalog loaded bound
    have judged : bound = _ :=
      registration.value_bind_overtaken operand later
        { catalog, artifacts := empty.run earlier }
    dsimp only at judged
    rw [← run_append] at judged
    cases answer : (empty.run earlier).load registration.implementation with
    | error error =>
        simp only [answer] at judged
        exact ⟨fun _ => ⟨error, judged⟩, fun _ => .inl ⟨error, answer, judged⟩⟩
    | ok handle =>
        obtain ⟨named, artifact, deployed, sound, inspection⟩ :=
          inspection_run few answer
        simp only [answer] at judged
        constructor
        · intro touched
          rw [← named] at touched
          obtain ⟨error, failed⟩ :=
            (inspection .aggregator).error_of_touches touched
          simp only [failed] at judged
          exact ⟨error, judged⟩
        · intro untouched
          refine .inr ⟨artifact, deployed, sound, ?_⟩
          intro declarations declared
          rw [← named] at untouched
          simp only [(inspection .aggregator).current untouched] at judged
          rw [← declared.arguments?_eq]
          exact judged

/-- An implementation of an aggregate of doubles. -/
def spreadArtifact : Artifact :=
  .ofHostAggregator "stats.Spread" ⟨.float64, .float64, "Extent"⟩

/-- The same implementation is removed and deployed again. -/
def spreadRedeployed : List ArtifactChange :=
  [.undeploy "stats.Spread", .deploy spreadArtifact]

theorem redeployed_spread_refused :
    let deployed : List ArtifactChange := [.deploy spreadArtifact]
    let handle : Handle := ⟨"stats.Spread", 1⟩
    let registration : Registration :=
      ⟨⟨2⟩, "APP", "SPREAD", .double, .double, "stats.Spread"⟩
    ArtifactStore.deploymentCount (deployed ++ spreadRedeployed) < 2 ^ 64 ∧
      (ArtifactStore.empty.run deployed).load "stats.Spread" = .ok handle ∧
      (∃ generation : UInt64, 1 < generation.toNat ∧
        (ArtifactStore.empty.run (deployed ++ spreadRedeployed)).arguments
            handle .aggregator =
          .error (.linkage "stats.Spread"
            (ArtifactStore.arguments.redeployed 1 generation))) ∧
      ∃ error, ((registration.bind .double).play
          (Stores.overtaken spreadRedeployed)
          { artifacts := ArtifactStore.empty.run deployed }).value =
        .error (registration.loadFailure error) := by
  intro deployed handle registration
  have few : ArtifactStore.deploymentCount (deployed ++ spreadRedeployed) <
      2 ^ 64 := by
    decide
  have loaded : (ArtifactStore.empty.run deployed).load "stats.Spread" =
      .ok handle := by
    decide
  have touched : ArtifactStore.Touches spreadRedeployed "stats.Spread" :=
    ⟨.deploy spreadArtifact, by simp [spreadRedeployed], rfl⟩
  have standing : ArtifactStore.Deployed (deployed ++ spreadRedeployed)
      "stats.Spread" spreadArtifact :=
    ⟨[.deploy spreadArtifact, .undeploy "stats.Spread"], _, [], rfl,
      ⟨rfl, rfl⟩, by simp⟩
  obtain ⟨handles, bindings⟩ := stale_handle_refused few
  obtain ⟨-, artifact, -, -, ⟨declarations, declared⟩, inspections⟩ :=
    handles "stats.Spread" handle loaded
  have inspection := inspections declarations declared .aggregator
  exact ⟨few, loaded, inspection.replaced touched spreadArtifact standing,
    (bindings registration .double {}).1 touched⟩

end SqlAdmission
