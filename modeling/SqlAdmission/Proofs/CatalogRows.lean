import SqlAdmission.Proofs.CatalogInvariant

/-!
# Rows across a step

Where a row comes from and how long it stays.  A row found after a step was
found before it, or is the one the step created under the next identifier.
What is found under a number that has been given out changes only by a drop,
grants apart, since every number is given out once.
-/

namespace SqlAdmission

/-- The number of the object or schema that a look-up is about. -/
def Lookup.number : Lookup → UInt64
  | grant target _ => target.val
  | object id => id.val
  | schema id => id.val
  | registration id => id.val

/-- Whether a change removes, if it succeeds, what a look-up asks for. -/
def CatalogChange.Drops : CatalogChange → Lookup → Prop
  | dropSchema dropped, .schema id => dropped = id
  | dropObject dropped, .object id => dropped = id
  | dropObject dropped, .registration id => dropped = id
  | dropObject dropped, .grant target _ => dropped = target
  | _, _ => False

theorem CatalogChange.drops_object_iff {change : CatalogChange}
    {id : ObjectId} :
    change.Drops (.object id) ↔ change = .dropObject id := by
  cases change <;> simp [Drops]

theorem CatalogChange.drops_schema_iff {change : CatalogChange}
    {id : SchemaId} :
    change.Drops (.schema id) ↔ change = .dropSchema id := by
  cases change <;> simp [Drops]

namespace Catalog

variable {catalog after : Catalog} {change : CatalogChange}
  {result : Except CatalogError (Option UInt64)}

/-! ## Numbers given out -/

/-- The number of a schema or an object that has been created. -/
def Given (catalog : Catalog) (number : UInt64) : Prop :=
  1 ≤ number.toNat ∧ number.toNat ≤ catalog.lastId.toNat

theorem Given.ne_nextId {number : UInt64} (given : catalog.Given number)
    (room : catalog.lastId.toNat + 1 < 2 ^ 64) : catalog.nextId ≠ number := by
  intro same
  have bounded := given.2
  rw [← same, toNat_nextId room] at bounded
  omega

theorem Given.step {number : UInt64} (given : catalog.Given number)
    (room : catalog.HasRoomFor result)
    (step : Step catalog change result after) : after.Given number := by
  refine ⟨given.1, Nat.le_trans given.2 ?_⟩
  rcases step.lastId with ⟨-, same⟩ | ⟨issued, next⟩
  · exact Nat.le_of_eq (congrArg UInt64.toNat same.symm)
  · rw [next, toNat_nextId (room (by simp [issued]))]
    omega

theorem Step.given_nextId (step : Step catalog change result after)
    (room : catalog.HasRoomFor result)
    (created : issued? result ≠ none) : after.Given catalog.nextId := by
  rcases step.lastId with ⟨nothing, -⟩ | ⟨-, next⟩
  · exact (created nothing).elim
  · refine ⟨?_, Nat.le_of_eq (congrArg UInt64.toNat next.symm)⟩
    rw [toNat_nextId (room created)]
    omega

/-! ## Persistence -/

/-- Under a number that has been given out, a step leaves everything but grants
as it is, or drops it. -/
theorem Step.find?_of_given (step : Step catalog change result after)
    (room : catalog.HasRoomFor result)
    (wanted : Lookup) (lasting : wanted.kind ≠ .grant)
    (given : catalog.Given wanted.number) :
    after.find? wanted = catalog.find? wanted ∨
      change.Drops wanted ∧ result = .ok none ∧ after.find? wanted = none := by
  rw [step.find?]
  cases step with
  | schemaCreated | objectCreated | aggregateCreated =>
      have fresh := given.ne_nextId (room (by simp [issued?]))
      left
      cases wanted with
      | schema id =>
          have other : (⟨catalog.nextId⟩ : SchemaId) ≠ id :=
            mt (congrArg SchemaId.val) fresh
          simp [findAfter, other]
      | object id | registration id =>
          have other : (⟨catalog.nextId⟩ : ObjectId) ≠ id :=
            mt (congrArg ObjectId.val) fresh
          simp [findAfter, other]
      | grant object grantee => exact (lasting rfl).elim
  | @schemaDropped dropped live =>
      cases wanted with
      | schema id =>
          by_cases same : dropped = id
          · exact .inr ⟨same, rfl, by simp [findAfter, same]⟩
          · exact .inl (by simp [findAfter, same])
      | _ => exact .inl rfl
  | @objectDropped dropped live =>
      cases wanted with
      | object id | registration id =>
          by_cases same : dropped = id
          · exact .inr ⟨same, rfl, by simp [findAfter, same]⟩
          · exact .inl (by simp [findAfter, same])
      | schema id => exact .inl rfl
      | grant object grantee => exact (lasting rfl).elim
  | _ =>
      left
      cases wanted with
      | grant object grantee => exact (lasting rfl).elim
      | _ => rfl

/-- What a step drops is not found after it. -/
theorem Step.find?_of_drops {wanted : Lookup}
    (step : Step catalog change (.ok none) after)
    (drops : change.Drops wanted) : after.find? wanted = none := by
  rw [step.find?]
  cases change with
  | dropSchema dropped =>
      cases wanted with
      | schema id => exact if_pos drops
      | _ => exact drops.elim
  | dropObject dropped =>
      cases wanted with
      | object id | registration id => exact if_pos drops
      | grant object grantee => exact if_pos drops
      | schema id => exact drops.elim
  | _ => exact drops.elim

/-! ## Origin -/

theorem find?_schema_eq_none_iff {id : SchemaId} :
    catalog.find? (.schema id) = none ↔ id ∉ catalog.schemas :=
  getElem?_eq_none_iff catalog.schemas id

theorem schemaNamed?_eq_none_iff {name : String} :
    catalog.schemaNamed? name = none ↔
      ∀ id home, catalog.find? (.schema id) = some home → home.name ≠ name := by
  simp only [schemaNamed?, List.find?_eq_none, List.mem_map, find?]
  constructor
  · intro free id home found named
    have listed : (id, home) ∈ catalog.schemas.toList :=
      Std.ExtTreeMap.mem_toList_iff_getElem?_eq_some.mpr found
    exact free home ⟨_, listed, rfl⟩ (by simpa using named)
  · intro free home listed
    obtain ⟨⟨id, home⟩, member, rfl⟩ := listed
    have found := Std.ExtTreeMap.mem_toList_iff_getElem?_eq_some.mp member
    simpa using free id home found

theorem hasObjectNamed_eq_false_iff {schema : SchemaId} {name : String} :
    catalog.hasObjectNamed schema name = false ↔
      ∀ id row, catalog.find? (.object id) = some row →
        row.schema = schema → row.name ≠ name := by
  simp only [hasObjectNamed, List.any_eq_false, find?]
  constructor
  · intro free id row found housed named
    have listed : (id, row) ∈ catalog.objects.toList :=
      Std.ExtTreeMap.mem_toList_iff_getElem?_eq_some.mpr found
    exact free _ listed (by simp [housed, named])
  · intro free entry listed
    have found := Std.ExtTreeMap.mem_toList_iff_getElem?_eq_some.mp listed
    simpa using free entry.1 entry.2 found

/-- A schema found after a step was found before, or it is new and its name was
free. -/
theorem Step.schema_origin (step : Step catalog change result after)
    {id : SchemaId} {home : SchemaRow}
    (found : after.find? (.schema id) = some home) :
    catalog.find? (.schema id) = some home ∨
      id = ⟨catalog.nextId⟩ ∧ issued? result ≠ none ∧
        catalog.schemaNamed? home.name = none := by
  rw [step.find?] at found
  cases step with
  | schemaCreated free =>
      simp only [findAfter] at found
      split at found
      · rename_i same
        cases found
        exact .inr ⟨same.symm, by simp [issued?], free⟩
      · exact .inl found
  | schemaDropped live =>
      simp only [findAfter] at found
      split at found
      · contradiction
      · exact .inl found
  | _ => exact .inl found

/-- An object found after a step was found before, or it is new, its schema
exists and its name was free there; schemas are then left as they are. -/
theorem Step.object_origin (step : Step catalog change result after)
    {id : ObjectId} {row : ObjectRow}
    (found : after.find? (.object id) = some row) :
    catalog.find? (.object id) = some row ∨
      id = ⟨catalog.nextId⟩ ∧ issued? result ≠ none ∧
        (∃ home, catalog.find? (.schema row.schema) = some home) ∧
        catalog.hasObjectNamed row.schema row.name = false ∧
        ∀ schema, after.find? (.schema schema) =
          catalog.find? (.schema schema) := by
  rw [step.find?] at found
  cases step with
  | objectCreated housed free | aggregateCreated housed free =>
      simp only [findAfter] at found
      split at found
      · rename_i same
        cases found
        exact .inr ⟨same.symm, by simp [issued?], ⟨_, housed⟩, free,
          fun _ => rfl⟩
      · exact .inl found
  | objectDropped live =>
      simp only [findAfter] at found
      split at found
      · contradiction
      · exact .inl found
  | _ => exact .inl found

/-- A registration found after a step was found before, or it was declared with
a new aggregate of its name in a schema of the name it tells. -/
theorem Step.registration_origin (step : Step catalog change result after)
    {id : ObjectId} {registration : Registration}
    (found : after.find? (.registration id) = some registration) :
    catalog.find? (.registration id) = some registration ∨
      id = ⟨catalog.nextId⟩ ∧ ∃ schema home,
        after.find? (.object id) =
            some ⟨id, schema, registration.name, .aggregate⟩ ∧
          after.find? (.schema schema) = some home ∧
            home.name = registration.schemaName := by
  have created := step.find? (.object id)
  rw [step.find?] at found
  cases step with
  | @aggregateCreated schema name inputType returnType implementation home
      housed free =>
      simp only [findAfter] at found created
      split at found
      · rename_i same
        rw [if_pos same] at created
        rw [show catalog.find? (.schema schema) = some home from housed] at found
        cases found
        exact .inr ⟨same.symm, schema, home, created, housed, rfl⟩
      · exact .inl found
  | objectDropped live =>
      simp only [findAfter] at found
      split at found
      · contradiction
      · exact .inl found
  | _ => exact .inl found

end Catalog

end SqlAdmission
