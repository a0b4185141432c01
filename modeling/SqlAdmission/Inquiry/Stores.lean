import SqlAdmission.Catalog.Basic
import SqlAdmission.Inquiry.Run

/-!
# Answers from the stores

A catalog and an artifact store answer every question, each from what it holds
now, and neither is changed by being asked.
-/

namespace SqlAdmission

structure Stores where
  catalog : Catalog := {}
  artifacts : ArtifactStore := {}

namespace Stores

/-- The answer the stores give to a question. -/
def answer (stores : Stores) : (question : Question) → question.Answer
  | .lookup _ wanted => .ok (stores.catalog.find? wanted)
  | .load name => stores.artifacts.load name
  | .arguments handle contract => stores.artifacts.arguments handle contract

/-- The stores with an artifact deployed, and the event that tells it. -/
def deploy (stores : Stores) (artifact : Artifact) : Stores × Event :=
  let artifacts := stores.artifacts.deploy artifact
  ({ stores with artifacts }, .deployed artifact.name artifacts.generation)

def undeploy (stores : Stores) (name : String) : Stores :=
  { stores with artifacts := stores.artifacts.undeploy name }

/-- The stores as a responder that never changes. -/
def responder : Responder Stores :=
  fun question stores => { answer := stores.answer question, state := stores }

end Stores

end SqlAdmission
