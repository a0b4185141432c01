import SqlAdmission.Proofs.CatalogInvariant
import SqlAdmission.Proofs.Standing

/-!
# Aggregates in a history

The registration of an aggregate is the one its creation declared, for as long
as its object has not been dropped.  No other change touches it, and no other
aggregate ever gets its identifier.
-/

namespace SqlAdmission

namespace Catalog

variable {catalog after : Catalog} {change : CatalogChange}
  {result : Except CatalogError (Option UInt64)}

theorem createAggregate_eq_ok_iff {schema : SchemaId} {name implementation : String}
    {inputType returnType : DataType} {id : ObjectId} :
    (catalog.createAggregate schema name inputType returnType
        implementation).1 = .ok id ↔
      (∃ home, catalog.find? (.schema schema) = some home) ∧
        catalog.hasObjectNamed schema name = false ∧ ⟨catalog.nextId⟩ = id := by
  simp only [createAggregate, createObject, find?]
  cases housed : catalog.schemas[schema]? with
  | none => simp
  | some home => cases catalog.hasObjectNamed schema name <;> simp [housed]

/-- An aggregate that is created is found together with its registration. -/
theorem find?_createAggregate {schema : SchemaId} {name implementation : String}
    {inputType returnType : DataType} {id : ObjectId} {home : SchemaRow}
    (created : (catalog.createAggregate schema name inputType returnType
      implementation).1 = .ok id)
    (housed : catalog.find? (.schema schema) = some home) :
    let after := (catalog.apply
      (.createAggregate schema name inputType returnType implementation)).2
    after.find? (.object id) = some ⟨id, schema, name, .aggregate⟩ ∧
      after.find? (.registration id) =
        some ⟨id, home.name, name, inputType, returnType, implementation⟩ := by
  intro after
  have step := step_apply catalog
    (.createAggregate schema name inputType returnType implementation)
  have issues : (catalog.apply (.createAggregate schema name inputType
      returnType implementation)).1 = .ok (some id.val) := by
    simp [apply, created, Except.map]
  obtain ⟨-, -, rfl⟩ := createAggregate_eq_ok_iff.mp created
  rw [step.find?, step.find?, issues]
  exact ⟨by simp [findAfter], by simp [findAfter, housed]⟩

/-- A change creates an aggregate with a registration, in a schema of the name
that the registration tells. -/
def Declares (catalog : Catalog) (change : CatalogChange)
    (registration : Registration) : Prop :=
  ∃ schema home,
    change = .createAggregate schema registration.name registration.inputType
      registration.returnType registration.implementation ∧
    (catalog.createAggregate schema registration.name registration.inputType
      registration.returnType registration.implementation).1 =
        .ok registration.id ∧
    catalog.find? (.schema schema) = some home ∧
      home.name = registration.schemaName

/-- An aggregate was created with a registration, and its object has not been
dropped since. -/
def Declared (history : List CatalogChange) (registration : Registration) :
    Prop :=
  Standing (fun earlier change => (empty.run earlier).Declares change registration)
    (· = .dropObject registration.id) history

theorem declares_createAggregate_iff {schema : SchemaId}
    {name implementation : String} {inputType returnType : DataType}
    {registration : Registration} :
    catalog.Declares
        (.createAggregate schema name inputType returnType implementation)
        registration ↔
      ∃ home, catalog.find? (.schema schema) = some home ∧
        catalog.hasObjectNamed schema name = false ∧
          registration = ⟨⟨catalog.nextId⟩, home.name, name, inputType,
            returnType, implementation⟩ := by
  unfold Declares
  simp only [createAggregate_eq_ok_iff]
  obtain ⟨id, schemaName, called, takes, returns, implemented⟩ := registration
  constructor
  · intro declares
    obtain ⟨target, home, equal, ⟨-, free, rfl⟩, found, rfl⟩ := declares
    cases equal
    exact ⟨home, found, free, rfl⟩
  · intro creates
    obtain ⟨home, found, free, equal⟩ := creates
    cases equal
    exact ⟨schema, home, rfl, ⟨⟨home, found⟩, free, rfl⟩, found, rfl⟩

/-- A registration is found after a step if the step declares it, or if it was
found before and the step does not drop its object. -/
theorem Sound.registration_step (sound : catalog.Sound)
    (room : catalog.HasRoomFor result)
    (step : Step catalog change result after) {registration : Registration} :
    after.find? (.registration registration.id) = some registration ↔
      catalog.Declares change registration ∨
        catalog.find? (.registration registration.id) = some registration ∧
          change ≠ .dropObject registration.id := by
  rw [step.find?]
  cases step with
  | @aggregateCreated schema name inputType returnType implementation home
      housed free =>
      have found : catalog.find? (.schema schema) = some home := housed
      simp only [declares_createAggregate_iff, findAfter, found, free]
      by_cases same : (⟨catalog.nextId⟩ : ObjectId) = registration.id
      · -- The new identifier is fresh, so nothing was registered under it.
        have unregistered : catalog.find? (.registration registration.id) ≠
            some registration := by
          intro old
          obtain ⟨row, rowFound, -⟩ := sound.registrationLive old
          rw [← same] at rowFound
          exact sound.fresh (room (by simp [issued?])) ⟨row, rowFound⟩
        simp only [same, unregistered, false_and, or_false]
        simp [eq_comm]
      · have other : registration ≠ ⟨⟨catalog.nextId⟩, home.name, name,
            inputType, returnType, implementation⟩ := by
          intro equality
          subst equality
          exact same rfl
        rw [if_neg same]
        simp [other]
  | @objectDropped dropped live =>
      by_cases same : dropped = registration.id
      · simp [findAfter, Declares, same]
      · simp [findAfter, Declares, same]
  | refused refusal =>
      have undeclared : ¬catalog.Declares change registration := by
        intro declares
        obtain ⟨schema, home, rfl, created, found, -⟩ := declares
        obtain ⟨-, free, -⟩ := createAggregate_eq_ok_iff.mp created
        cases refusal with
        | aggregateHomeless homeless =>
            have absent : catalog.find? (.schema schema) = none := homeless
            simp [absent] at found
        | aggregateExists housed taken => simp [taken] at free
      have undropped : catalog.find? (.registration registration.id) =
          some registration → change ≠ .dropObject registration.id := by
        intro old equality
        subst equality
        obtain ⟨row, found, -⟩ := sound.registrationLive old
        cases refusal with
        | objectUnknown unknown => exact unknown (live_iff_mem.mp ⟨row, found⟩)
      simp only [findAfter, undeclared, false_or, iff_self_and]
      exact undropped
  | _ => simp [findAfter, Declares]

/-- The registrations of a catalog are those that stand declared in its
history. -/
theorem registration_iff_declared {history : List CatalogChange}
    (few : (empty.issued history).length < 2 ^ 64)
    {registration : Registration} :
    (empty.run history).find? (.registration registration.id) =
        some registration ↔
      Declared history registration := by
  induction history using List.reverseRecOn with
  | nil => exact iff_of_false (by simp) not_standing_nil
  | append_singleton history last induction =>
      have sound := sound_run (few_earlier few)
      have step := step_apply (empty.run history) last
      unfold Declared at induction ⊢
      rw [standing_append_singleton_iff, ← induction (few_earlier few),
        run_append_singleton]
      exact sound.registration_step (room_of_few few) step

end Catalog

end SqlAdmission
