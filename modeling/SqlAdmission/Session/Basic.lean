import SqlAdmission.Session.Overlay
import SqlAdmission.Statement.Bind

/-!
# Sessions

A session holds a catalog and an artifact store, the overlay in front of them,
and the transaction and policy of the statements it judges.
-/

namespace SqlAdmission

/-- The stores, the overlay in front of them, and the settings of statements. -/
structure Session where
  stores : Stores := {}
  overlay : Overlay := {}
  policy : Policy := {}
  txn : TxnId := ⟨1⟩

namespace Session

def statement (session : Session) (user : String) : Statement where
  txn := session.txn
  user := user
  policy := session.policy

def withCatalog (session : Session) (catalog : Catalog) : Session :=
  { session with stores := { session.stores with catalog } }

/-- The answers of a session: a failure that is due, a row that is planted,
else what the stores hold. -/
def respond : Responder Session
  | .lookup _ wanted, session =>
    let (failure, overlay) := session.overlay.countLookup wanted.kind
    let answer :=
      match failure with
      | some error => .error error
      | none => .ok ((session.overlay.planted? wanted).or (session.stores.catalog.find? wanted))
    { answer, state := { session with overlay } }
  | .load name, session =>
    match session.overlay.loadError with
    | some error => { answer := .error error, state := session }
    | none =>
      match session.stores.artifacts.load name with
      | .error error => { answer := .error error, state := session }
      | .ok handle =>
        let (stores, events) := session.overlay.afterLoad session.stores
        { answer := .ok handle, state := { session with stores }, events }
  | .arguments handle contract, session =>
    match session.overlay.argumentsError with
    | some error => { answer := .error error, state := session }
    | none =>
      { answer := session.stores.artifacts.arguments handle contract, state := session }

def run {α : Type} (session : Session) (inquiry : Inquiry α) : Outcome Session α :=
  inquiry.run respond session

end Session

end SqlAdmission
