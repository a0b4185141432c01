import SqlAdmission.Proofs.CatalogStep

/-!
# Look-ups after a change

What each look-up finds once a change has had its outcome.  Whatever a case
does not name is unchanged, so that `findAfter` tells the effect of a change
and its frame at once.
-/

namespace SqlAdmission

namespace Catalog

/-- What a look-up finds after a change that had an outcome. -/
def findAfter (catalog : Catalog) (change : CatalogChange)
    (result : Except CatalogError (Option UInt64)) :
    (wanted : Lookup) → Option wanted.Row
  | .schema id =>
    match result, change with
    | .ok _, .createSchema name owner =>
      if ⟨catalog.nextId⟩ = id then some ⟨id, name, owner⟩
      else catalog.find? (.schema id)
    | .ok _, .dropSchema dropped =>
      if dropped = id then none else catalog.find? (.schema id)
    | _, _ => catalog.find? (.schema id)
  | .object id =>
    match result, change with
    | .ok _, .createObject schema name kind =>
      if ⟨catalog.nextId⟩ = id then some ⟨id, schema, name, kind⟩
      else catalog.find? (.object id)
    | .ok _, .createAggregate schema name _ _ _ =>
      if ⟨catalog.nextId⟩ = id then some ⟨id, schema, name, .aggregate⟩
      else catalog.find? (.object id)
    | .ok _, .dropObject dropped =>
      if dropped = id then none else catalog.find? (.object id)
    | _, _ => catalog.find? (.object id)
  | .registration id =>
    match result, change with
    | .ok _, .createAggregate schema name inputType returnType implementation =>
      if ⟨catalog.nextId⟩ = id then
        (catalog.find? (.schema schema)).map fun home =>
          ⟨id, home.name, name, inputType, returnType, implementation⟩
      else catalog.find? (.registration id)
    | .ok _, .dropObject dropped =>
      if dropped = id then none else catalog.find? (.registration id)
    | _, _ => catalog.find? (.registration id)
  | .grant object grantee =>
    match result, change with
    | .ok _, .grant added =>
      if added.key = ⟨object, grantee⟩ then
        some ((catalog.find? (.grant object grantee)).elim added
          (·.merge added))
      else catalog.find? (.grant object grantee)
    | .ok _, .revoke target holder privilege =>
      if target = object ∧ holder = grantee then
        ((catalog.find? (.grant object grantee)).map
          (·.revoke privilege)).filter (!·.isEmpty)
      else catalog.find? (.grant object grantee)
    | .ok _, .dropObject dropped =>
      if dropped = object then none
      else catalog.find? (.grant object grantee)
    | _, _ => catalog.find? (.grant object grantee)

@[simp] theorem find?_empty (wanted : Lookup) :
    empty.find? wanted = none := by
  cases wanted <;> simp [empty, Catalog.find?]

variable {catalog after : Catalog} {change : CatalogChange}
  {result : Except CatalogError (Option UInt64)}

theorem Step.find?_schema (step : Step catalog change result after)
    (id : SchemaId) :
    after.find? (.schema id) = catalog.findAfter change result (.schema id) := by
  cases step with
  | schemaCreated free =>
      simp only [find?, findAfter, Std.ExtTreeMap.getElem?_insert,
        Std.compare_eq_iff_eq]
      split
      · rename_i same
        rw [same]
      · rfl
  | schemaDropped live =>
      simp only [find?, findAfter, Std.ExtTreeMap.getElem?_erase,
        Std.compare_eq_iff_eq]
  | _ => rfl

theorem Step.find?_object (step : Step catalog change result after)
    (id : ObjectId) :
    after.find? (.object id) = catalog.findAfter change result (.object id) := by
  cases step with
  | objectCreated housed free | aggregateCreated housed free =>
      simp only [find?, findAfter, Std.ExtTreeMap.getElem?_insert,
        Std.compare_eq_iff_eq]
      split
      · rename_i same
        rw [same]
      · rfl
  | objectDropped live =>
      simp only [find?, findAfter, Std.ExtTreeMap.getElem?_erase,
        Std.compare_eq_iff_eq]
  | _ => rfl

theorem Step.find?_registration (step : Step catalog change result after)
    (id : ObjectId) :
    after.find? (.registration id) =
      catalog.findAfter change result (.registration id) := by
  cases step with
  | aggregateCreated housed free =>
      simp only [find?, findAfter, Std.ExtTreeMap.getElem?_insert,
        Std.compare_eq_iff_eq, housed]
      split
      · rename_i same
        rw [← same]
        rfl
      · rfl
  | objectDropped live =>
      simp only [find?, findAfter, Std.ExtTreeMap.getElem?_erase,
        Std.compare_eq_iff_eq]
  | _ => rfl

theorem Step.find?_grant (step : Step catalog change result after)
    (object : ObjectId) (grantee : String) :
    after.find? (.grant object grantee) =
      catalog.findAfter change result (.grant object grantee) := by
  cases step with
  | granted live =>
      simp only [find?, findAfter, Std.ExtTreeMap.getElem?_alter,
        Std.compare_eq_iff_eq]
      split
      · rename_i same
        rw [same]
      · rfl
  | revoked =>
      simp only [find?, findAfter, revoke, Std.ExtTreeMap.getElem?_alter,
        Std.compare_eq_iff_eq, GrantKey.mk.injEq]
      split
      · rename_i same
        rw [same.1, same.2]
      · rfl
  | @objectDropped dropped live =>
      simp only [find?, findAfter, Std.ExtTreeMap.getElem?_filter']
      by_cases same : dropped = object
      · simp [same]
      · have kept : object ≠ dropped := Ne.symm same
        rw [if_neg same]
        cases catalog.grants[(⟨object, grantee⟩ : GrantKey)]? <;> simp [kept]
  | _ => rfl

/-- Every look-up after a step is told by the change and its outcome. -/
theorem Step.find? (step : Step catalog change result after) (wanted : Lookup) :
    after.find? wanted = catalog.findAfter change result wanted := by
  cases wanted with
  | schema id => exact step.find?_schema id
  | object id => exact step.find?_object id
  | registration id => exact step.find?_registration id
  | grant object grantee => exact step.find?_grant object grantee

end Catalog

end SqlAdmission
