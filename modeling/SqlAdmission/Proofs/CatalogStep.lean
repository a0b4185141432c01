import SqlAdmission.Catalog.Change

/-!
# Steps of the catalog

`Step` lists what a change can do: one constructor for each kind of change that
succeeds, with the guard it passed and the catalog it leaves, and one for a
change that is refused.  What a step preserves is proved by cases on it,
without unfolding an operation again.
-/

namespace SqlAdmission

namespace Catalog

/-- Why a catalog refuses a change. -/
inductive Refusal (catalog : Catalog) : CatalogChange → CatalogError → Prop where
  | schemaExists {name owner : String} {other : SchemaRow}
      (taken : catalog.schemaNamed? name = some other) :
      Refusal catalog (.createSchema name owner) (.schemaExists name)
  | schemaUnknown {id : SchemaId} (unknown : id ∉ catalog.schemas) :
      Refusal catalog (.dropSchema id) (.schemaNotFound id)
  | objectHomeless {schema : SchemaId} {name : String} {kind : ObjectKind}
      (homeless : catalog.schemas[schema]? = none) :
      Refusal catalog (.createObject schema name kind) (.schemaNotFound schema)
  | objectExists {schema : SchemaId} {name : String} {kind : ObjectKind}
      {home : SchemaRow} (housed : catalog.schemas[schema]? = some home)
      (taken : catalog.hasObjectNamed schema name = true) :
      Refusal catalog (.createObject schema name kind)
        (.objectExists home.name name)
  | aggregateHomeless {schema : SchemaId} {name : String}
      {inputType returnType : DataType} {implementation : String}
      (homeless : catalog.schemas[schema]? = none) :
      Refusal catalog
        (.createAggregate schema name inputType returnType implementation)
        (.schemaNotFound schema)
  | aggregateExists {schema : SchemaId} {name : String}
      {inputType returnType : DataType} {implementation : String}
      {home : SchemaRow} (housed : catalog.schemas[schema]? = some home)
      (taken : catalog.hasObjectNamed schema name = true) :
      Refusal catalog
        (.createAggregate schema name inputType returnType implementation)
        (.objectExists home.name name)
  | objectUnknown {id : ObjectId} (unknown : id ∉ catalog.objects) :
      Refusal catalog (.dropObject id) (.objectNotFound id)
  | targetUnknown {grant : Grant} (unknown : grant.object ∉ catalog.objects) :
      Refusal catalog (.grant grant) (.objectNotFound grant.object)

/-- What a change does to a catalog, with its outcome. -/
inductive Step (catalog : Catalog) :
    CatalogChange → Except CatalogError (Option UInt64) → Catalog → Prop where
  | schemaCreated {name owner : String}
      (free : catalog.schemaNamed? name = none) :
      Step catalog (.createSchema name owner) (.ok (some catalog.nextId))
        { catalog with
          schemas := catalog.schemas.insert ⟨catalog.nextId⟩
            ⟨⟨catalog.nextId⟩, name, owner⟩
          lastId := catalog.nextId }
  | schemaDropped {id : SchemaId} (live : id ∈ catalog.schemas) :
      Step catalog (.dropSchema id) (.ok none)
        { catalog with schemas := catalog.schemas.erase id }
  | objectCreated {schema : SchemaId} {name : String} {kind : ObjectKind}
      {home : SchemaRow} (housed : catalog.schemas[schema]? = some home)
      (free : catalog.hasObjectNamed schema name = false) :
      Step catalog (.createObject schema name kind) (.ok (some catalog.nextId))
        { catalog with
          objects := catalog.objects.insert ⟨catalog.nextId⟩
            ⟨⟨catalog.nextId⟩, schema, name, kind⟩
          lastId := catalog.nextId }
  | aggregateCreated {schema : SchemaId} {name : String}
      {inputType returnType : DataType} {implementation : String}
      {home : SchemaRow} (housed : catalog.schemas[schema]? = some home)
      (free : catalog.hasObjectNamed schema name = false) :
      Step catalog
        (.createAggregate schema name inputType returnType implementation)
        (.ok (some catalog.nextId))
        { catalog with
          objects := catalog.objects.insert ⟨catalog.nextId⟩
            ⟨⟨catalog.nextId⟩, schema, name, .aggregate⟩
          registrations := catalog.registrations.insert ⟨catalog.nextId⟩
            ⟨⟨catalog.nextId⟩, home.name, name, inputType, returnType,
              implementation⟩
          lastId := catalog.nextId }
  | objectDropped {id : ObjectId} (live : id ∈ catalog.objects) :
      Step catalog (.dropObject id) (.ok none)
        { catalog with
          objects := catalog.objects.erase id
          grants := catalog.grants.filter fun key _ => key.object ≠ id
          registrations := catalog.registrations.erase id }
  | granted {grant : Grant} (live : grant.object ∈ catalog.objects) :
      Step catalog (.grant grant) (.ok none)
        { catalog with
          grants := catalog.grants.alter grant.key fun own =>
            some (own.elim grant (·.merge grant)) }
  | revoked {object : ObjectId} {grantee : String} {privilege : Privilege} :
      Step catalog (.revoke object grantee privilege) (.ok none)
        (catalog.revoke object grantee privilege)
  | refused {change : CatalogChange} {error : CatalogError}
      (refusal : Refusal catalog change error) :
      Step catalog change (.error error) catalog

theorem step_createObject (catalog : Catalog) (schema : SchemaId)
    (name : String) (kind : ObjectKind) :
    Step catalog (.createObject schema name kind)
      (catalog.apply (.createObject schema name kind)).1
      (catalog.apply (.createObject schema name kind)).2 := by
  simp only [apply, createObject]
  cases housed : catalog.schemas[schema]? with
  | none => exact .refused (.objectHomeless housed)
  | some home =>
      cases taken : catalog.hasObjectNamed schema name with
      | true => exact .refused (.objectExists housed taken)
      | false => exact .objectCreated housed taken

theorem step_createAggregate (catalog : Catalog) (schema : SchemaId)
    (name : String) (inputType returnType : DataType)
    (implementation : String) :
    Step catalog
      (.createAggregate schema name inputType returnType implementation)
      (catalog.apply
        (.createAggregate schema name inputType returnType implementation)).1
      (catalog.apply
        (.createAggregate schema name inputType returnType implementation)).2 := by
  simp only [apply, createAggregate, createObject]
  cases housed : catalog.schemas[schema]? with
  | none => exact .refused (.aggregateHomeless housed)
  | some home =>
      cases taken : catalog.hasObjectNamed schema name with
      | true => exact .refused (.aggregateExists housed taken)
      | false =>
          -- The schema that housed the new object still resolves.
          simp only [Bool.false_eq_true, if_false, housed]
          exact .aggregateCreated housed taken

/-- Every change is a step, successful or not. -/
theorem step_apply (catalog : Catalog) (change : CatalogChange) :
    Step catalog change (catalog.apply change).1 (catalog.apply change).2 := by
  cases change with
  | createSchema name owner =>
      simp only [apply, createSchema]
      cases named : catalog.schemaNamed? name with
      | none => exact .schemaCreated named
      | some other => exact .refused (.schemaExists named)
  | dropSchema id =>
      simp only [apply, dropSchema]
      by_cases live : id ∈ catalog.schemas
      · rw [if_pos live]
        exact .schemaDropped live
      · rw [if_neg live]
        exact .refused (.schemaUnknown live)
  | createObject schema name kind =>
      exact step_createObject catalog schema name kind
  | createAggregate schema name inputType returnType implementation =>
      exact step_createAggregate catalog schema name inputType returnType
        implementation
  | dropObject id =>
      simp only [apply, dropObject]
      by_cases live : id ∈ catalog.objects
      · rw [if_pos live]
        exact .objectDropped live
      · rw [if_neg live]
        exact .refused (.objectUnknown live)
  | grant grant =>
      simp only [apply, Catalog.grant]
      by_cases live : grant.object ∈ catalog.objects
      · rw [if_pos live]
        exact .granted live
      · rw [if_neg live]
        exact .refused (.targetUnknown live)
  | revoke object grantee privilege => exact .revoked

/-- A property of the empty catalog that every step preserves holds of every
reachable catalog. -/
theorem Reachable.induction {property : Catalog → Prop}
    (initial : property Catalog.empty)
    (preserved : ∀ {catalog change result after},
      property catalog → Step catalog change result after → property after)
    {catalog : Catalog} (reachable : catalog.Reachable) : property catalog := by
  obtain ⟨changes, rfl⟩ := reachable
  have general : ∀ {start : Catalog}, property start →
      property (start.run changes) := by
    induction changes with
    | nil => exact id
    | cons change changes induction =>
        intro start holds
        exact induction (preserved holds (step_apply start change))
  exact general initial

end Catalog

end SqlAdmission
