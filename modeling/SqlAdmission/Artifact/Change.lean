import SqlAdmission.Artifact.Basic

/-!
# Changes of the artifact store

Deployments and removals as values, made one after the other.
-/

namespace SqlAdmission

inductive ArtifactChange where
  | deploy (artifact : Artifact)
  | undeploy (name : String)

def ArtifactChange.name : ArtifactChange → String
  | deploy artifact => artifact.name
  | undeploy name => name

namespace ArtifactStore

def apply (store : ArtifactStore) : ArtifactChange → ArtifactStore
  | .deploy artifact => store.deploy artifact
  | .undeploy name => store.undeploy name

def run (store : ArtifactStore) (changes : List ArtifactChange) : ArtifactStore :=
  changes.foldl apply store

@[simp] theorem run_nil (store : ArtifactStore) : store.run [] = store := rfl

@[simp] theorem run_cons (store : ArtifactStore) (change : ArtifactChange)
    (changes : List ArtifactChange) :
    store.run (change :: changes) = (store.apply change).run changes := rfl

theorem run_append (store : ArtifactStore) (earlier later : List ArtifactChange) :
    store.run (earlier ++ later) = (store.run earlier).run later :=
  List.foldl_append

theorem run_append_singleton (store : ArtifactStore)
    (earlier : List ArtifactChange) (last : ArtifactChange) :
    store.run (earlier ++ [last]) = (store.run earlier).apply last :=
  store.run_append earlier [last]

end ArtifactStore

end SqlAdmission
