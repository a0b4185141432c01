import SqlAdmission.Inquiry.Stores

/-!
# Overlays

An overlay stands between a statement and the stores and answers some questions
in their place: reads that fail after a while, rows filed under a key of one's
choice, a loader that fails, and artifacts that change right after they were
loaded.  It serves to rehearse how a statement is judged when the world fails
or moves.
-/

namespace SqlAdmission

/-- A read that succeeds some more times and fails from then on. -/
structure Fault where
  skip : UInt64
  error : CatalogError
  deriving DecidableEq

/-- The answers given in place of the stores. -/
structure Overlay where
  faults : Lookup.Kind → Option Fault := fun _ => none
  grants : Std.ExtTreeMap GrantKey Grant := ∅
  objects : Std.ExtTreeMap ObjectId ObjectRow := ∅
  registrations : Std.ExtTreeMap ObjectId Registration := ∅
  loadError : Option LoadError := none
  argumentsError : Option LoadError := none
  deployAfterLoad : Option Artifact := none
  undeployAfterLoad : Option String := none

namespace Overlay

/-- The overlay with another fault, or none, for a kind of look-up. -/
def setFault (overlay : Overlay) (kind : Lookup.Kind) (fault : Option Fault) : Overlay :=
  { overlay with
    faults := fun other => if other = kind then fault else overlay.faults other }

def planted? (overlay : Overlay) : (lookup : Lookup) → Option lookup.Row
  | .grant object grantee => overlay.grants[(⟨object, grantee⟩ : GrantKey)]?
  | .object id => overlay.objects[id]?
  | .schema _ => none
  | .registration id => overlay.registrations[id]?

/-- The failure of the next look-up of a kind, if it fails, and the overlay
with that look-up counted. -/
def countLookup (overlay : Overlay) (kind : Lookup.Kind) : Option CatalogError × Overlay :=
  match overlay.faults kind with
  | none => (none, overlay)
  | some fault =>
    if fault.skip = 0 then
      (some fault.error, overlay)
    else
      (none, overlay.setFault kind (some { fault with skip := fault.skip - 1 }))

/-- What happens to the stores after a successful load: a deployment, and then
a removal. -/
def afterLoad (overlay : Overlay) (stores : Stores) : Stores × List Event :=
  let (deployed, events) :=
    match overlay.deployAfterLoad with
    | none => (stores, [])
    | some artifact =>
      let (deployed, event) := stores.deploy artifact
      (deployed, [event])
  match overlay.undeployAfterLoad with
  | none => (deployed, events)
  | some name => (deployed.undeploy name, events)

end Overlay

end SqlAdmission
