import Std.Data.ExtTreeMap
import SqlAdmission.Artifact.Error
import SqlAdmission.Contract

/-!
# Deployed artifacts

An artifact implements contracts, or is broken and cannot be linked.  The
store keeps one artifact under each name and numbers every deployment, so that
a handle to an artifact that has been replaced since is told apart from a
handle to the one that replaced it.
-/

namespace SqlAdmission

/-- A deployable artifact: the arguments it supplies for the contracts it
implements, and why it does not link if it does not. -/
structure Artifact where
  name : String
  contracts : Std.ExtTreeMap String TypeArguments := ∅
  defect : Option String := none

namespace Artifact

/-- The artifact with the arguments for one contract declared.  Contracts are
told apart by their names alone; the last declaration of a name counts. -/
def declare (artifact : Artifact) (contract : Contract)
    (arguments : TypeArguments) : Artifact :=
  { artifact with contracts := artifact.contracts.insert contract.name arguments }

def withDefect (artifact : Artifact) (reason : String) : Artifact :=
  { artifact with defect := some reason }

/-- The arguments the artifact supplies for a contract, if it declares any. -/
def arguments? (artifact : Artifact) (contract : Contract) : Option TypeArguments :=
  artifact.contracts[contract.name]?

/-- A host aggregator as an artifact that implements the aggregator contract. -/
def ofHostAggregator (name : String) (aggregator : HostAggregator) : Artifact :=
  Artifact.declare { name } .aggregator aggregator.arguments

end Artifact

/-- An artifact and the number of its deployment. -/
structure Deployment where
  generation : UInt64
  artifact : Artifact

/-- A loaded artifact: its name and the deployment it was loaded from. -/
structure Handle where
  name : String
  generation : UInt64
  deriving DecidableEq

/-- The artifacts deployed now and the number of the last deployment. -/
structure ArtifactStore where
  deployments : Std.ExtTreeMap String Deployment := ∅
  generation : UInt64 := 0

namespace ArtifactStore

def empty : ArtifactStore := {}

/-- Deploy an artifact in the place of any other of its name. -/
def deploy (store : ArtifactStore) (artifact : Artifact) : ArtifactStore where
  deployments := store.deployments.insert artifact.name ⟨store.generation + 1, artifact⟩
  generation := store.generation + 1

def undeploy (store : ArtifactStore) (name : String) : ArtifactStore :=
  { store with deployments := store.deployments.erase name }

/-- Undeploy a name, and tell whether anything was deployed under it. -/
def remove (store : ArtifactStore) (name : String) : Bool × ArtifactStore :=
  (store.deployments[name]?.isSome, store.undeploy name)

def contains (store : ArtifactStore) (name : String) : Bool :=
  store.deployments.contains name

/-- Load the artifact of a name.  A broken artifact does not load. -/
def load (store : ArtifactStore) (name : String) : Except LoadError Handle :=
  match store.deployments[name]? with
  | none => .error (.classNotFound name)
  | some deployment =>
    match deployment.artifact.defect with
    | some reason => .error (.linkage name reason)
    | none => .ok ⟨name, deployment.generation⟩

/-- The arguments a loaded artifact supplies for a contract.  A handle is good
only for the deployment it was loaded from. -/
def arguments (store : ArtifactStore) (handle : Handle) (contract : Contract) :
    Except LoadError (Option TypeArguments) :=
  match store.deployments[handle.name]? with
  | none => .error (.classNotFound handle.name)
  | some deployment =>
    if deployment.generation = handle.generation then
      .ok (deployment.artifact.arguments? contract)
    else
      .error (.linkage handle.name (redeployed handle.generation deployment.generation))
where
  redeployed (loaded current : UInt64) : String :=
    s!"redeployed while loading (generation {loaded.toNat} -> {current.toNat})"

end ArtifactStore

end SqlAdmission
