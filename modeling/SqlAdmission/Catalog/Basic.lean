import SqlAdmission.Catalog.Error
import SqlAdmission.Catalog.Lookup

/-!
# The catalog

Schemas, objects, grants and aggregate registrations, with the operations that
change them.  Schemas and objects draw their identifiers from one sequence, so
no identifier is given out twice.  An operation returns its result together
with the catalog it leaves behind, also when it fails.
-/

namespace SqlAdmission

/-- The rows of the data dictionary and the last identifier given out. -/
structure Catalog where
  schemas : Std.ExtTreeMap SchemaId SchemaRow := ∅
  objects : Std.ExtTreeMap ObjectId ObjectRow := ∅
  grants : Std.ExtTreeMap GrantKey Grant := ∅
  registrations : Std.ExtTreeMap ObjectId Registration := ∅
  lastId : UInt64 := 0

namespace Catalog

def empty : Catalog := {}

def find? (catalog : Catalog) : (lookup : Lookup) → Option lookup.Row
  | .grant object grantee => catalog.grants[(⟨object, grantee⟩ : GrantKey)]?
  | .object id => catalog.objects[id]?
  | .schema id => catalog.schemas[id]?
  | .registration id => catalog.registrations[id]?

def schemaNamed? (catalog : Catalog) (name : String) : Option SchemaRow :=
  (catalog.schemas.toList.map Prod.snd).find? (·.name = name)

def hasObjectNamed (catalog : Catalog) (schema : SchemaId) (name : String) : Bool :=
  catalog.objects.toList.any fun entry => entry.2.schema = schema && entry.2.name = name

def grantCount (catalog : Catalog) : Nat :=
  catalog.grants.size

def nextId (catalog : Catalog) : UInt64 :=
  catalog.lastId + 1

/-- Create a schema under a name no other schema has. -/
def createSchema (catalog : Catalog) (name owner : String) :
    Except CatalogError SchemaId × Catalog :=
  if (catalog.schemaNamed? name).isSome then
    (.error (.schemaExists name), catalog)
  else
    let id : SchemaId := ⟨catalog.nextId⟩
    (.ok id,
      { catalog with
        schemas := catalog.schemas.insert id ⟨id, name, owner⟩
        lastId := catalog.nextId })

/-- Drop a schema.  Its objects stay, without a schema that resolves. -/
def dropSchema (catalog : Catalog) (id : SchemaId) : Except CatalogError Unit × Catalog :=
  if id ∈ catalog.schemas then
    (.ok (), { catalog with schemas := catalog.schemas.erase id })
  else
    (.error (.schemaNotFound id), catalog)

/-- Create an object in a live schema, under a name no other object of the
schema has. -/
def createObject (catalog : Catalog) (schema : SchemaId) (name : String) (kind : ObjectKind) :
    Except CatalogError ObjectId × Catalog :=
  match catalog.schemas[schema]? with
  | none => (.error (.schemaNotFound schema), catalog)
  | some row =>
    if catalog.hasObjectNamed schema name then
      (.error (.objectExists row.name name), catalog)
    else
      let id : ObjectId := ⟨catalog.nextId⟩
      (.ok id,
        { catalog with
          objects := catalog.objects.insert id ⟨id, schema, name, kind⟩
          lastId := catalog.nextId })

/-- Create an aggregate object and register what it was declared with. -/
def createAggregate (catalog : Catalog) (schema : SchemaId) (name : String)
    (inputType returnType : DataType) (implementation : String) :
    Except CatalogError ObjectId × Catalog :=
  match catalog.createObject schema name .aggregate with
  | (.error error, unchanged) => (.error error, unchanged)
  | (.ok id, created) =>
    match created.schemas[schema]? with
    | none => (.error (.schemaNotFound schema), created)
    | some row =>
      (.ok id,
        { created with
          registrations := created.registrations.insert id
            ⟨id, row.name, name, inputType, returnType, implementation⟩ })

/-- Drop an object, the grants on it and its registration. -/
def dropObject (catalog : Catalog) (id : ObjectId) : Except CatalogError Unit × Catalog :=
  if id ∈ catalog.objects then
    (.ok (),
      { catalog with
        objects := catalog.objects.erase id
        grants := catalog.grants.filter fun key _ => key.object ≠ id
        registrations := catalog.registrations.erase id })
  else
    (.error (.objectNotFound id), catalog)

/-- Store a grant on a live object, merged into the one its grantee has. -/
def grant (catalog : Catalog) (grant : Grant) : Except CatalogError Unit × Catalog :=
  if grant.object ∈ catalog.objects then
    (.ok (),
      { catalog with
        grants := catalog.grants.alter grant.key fun own =>
          some (own.elim grant (·.merge grant)) })
  else
    (.error (.objectNotFound grant.object), catalog)

/-- Take one privilege from a grantee.  A grant that then carries nothing is
removed. -/
def revoke (catalog : Catalog) (object : ObjectId) (grantee : String)
    (privilege : Privilege) : Catalog :=
  { catalog with
    grants := catalog.grants.alter ⟨object, grantee⟩ fun own =>
      (own.map (·.revoke privilege)).filter (!·.isEmpty) }

end Catalog

end SqlAdmission
