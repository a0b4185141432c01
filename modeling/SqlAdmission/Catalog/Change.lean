import SqlAdmission.Catalog.Basic

/-!
# Changes of the catalog

The data definition statements as values.  A catalog is reachable when some
list of changes leads to it from the empty catalog; a change that fails counts
as a step too.
-/

namespace SqlAdmission

inductive CatalogChange where
  | createSchema (name owner : String)
  | dropSchema (id : SchemaId)
  | createObject (schema : SchemaId) (name : String) (kind : ObjectKind)
  | createAggregate (schema : SchemaId) (name : String)
      (inputType returnType : DataType) (implementation : String)
  | dropObject (id : ObjectId)
  | grant (grant : Grant)
  | revoke (object : ObjectId) (grantee : String) (privilege : Privilege)

namespace Catalog

/-- The outcome of a change, which for a creation is the number of the new row,
and the catalog it leaves behind. -/
def apply (catalog : Catalog) :
    CatalogChange → Except CatalogError (Option UInt64) × Catalog
  | .createSchema name owner =>
    (catalog.createSchema name owner).map (·.map (some ·.val)) id
  | .dropSchema schema =>
    (catalog.dropSchema schema).map (·.map fun _ => none) id
  | .createObject schema name kind =>
    (catalog.createObject schema name kind).map (·.map (some ·.val)) id
  | .createAggregate schema name inputType returnType implementation =>
    (catalog.createAggregate schema name inputType returnType implementation).map
      (·.map (some ·.val)) id
  | .dropObject object =>
    (catalog.dropObject object).map (·.map fun _ => none) id
  | .grant grant =>
    (catalog.grant grant).map (·.map fun _ => none) id
  | .revoke object grantee privilege =>
    (.ok none, catalog.revoke object grantee privilege)

def run (catalog : Catalog) (changes : List CatalogChange) : Catalog :=
  changes.foldl (fun current change => (current.apply change).2) catalog

/-- Some list of changes leads from the empty catalog to this one. -/
def Reachable (catalog : Catalog) : Prop :=
  ∃ changes, catalog = empty.run changes

@[simp] theorem run_nil (catalog : Catalog) : catalog.run [] = catalog := rfl

@[simp] theorem run_cons (catalog : Catalog) (change : CatalogChange)
    (changes : List CatalogChange) :
    catalog.run (change :: changes) = (catalog.apply change).2.run changes := rfl

theorem run_append (catalog : Catalog) (earlier later : List CatalogChange) :
    catalog.run (earlier ++ later) = (catalog.run earlier).run later :=
  List.foldl_append

theorem run_append_singleton (catalog : Catalog) (earlier : List CatalogChange)
    (last : CatalogChange) :
    catalog.run (earlier ++ [last]) = ((catalog.run earlier).apply last).2 :=
  catalog.run_append earlier [last]

theorem Reachable.run {catalog : Catalog} (reachable : catalog.Reachable)
    (later : List CatalogChange) : (catalog.run later).Reachable := by
  obtain ⟨changes, rfl⟩ := reachable
  exact ⟨changes ++ later, (run_append _ changes later).symm⟩

theorem Reachable.apply {catalog : Catalog} (reachable : catalog.Reachable)
    (change : CatalogChange) : (catalog.apply change).2.Reachable :=
  reachable.run [change]

end Catalog

end SqlAdmission
