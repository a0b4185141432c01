import SqlAdmission.Proofs.CatalogFiling
import SqlAdmission.Proofs.CatalogRows

/-!
# Consistency of the catalog

The rows of a reachable catalog fit together: each is filed under its own key
and a number of its own, names are not shared, and grants and registrations
hang on objects they agree with.  Since no two schemas share a name, a schema
is found by its name in whatever order the schemas are searched.
-/

namespace SqlAdmission

namespace Catalog

variable {catalog after : Catalog} {change : CatalogChange}
  {result : Except CatalogError (Option UInt64)}

/-- The rows of a catalog fit together. -/
structure Consistent (catalog : Catalog) : Prop where
  filed : catalog.Filed
  schemaGiven : ∀ {id home},
    catalog.find? (.schema id) = some home → catalog.Given id.val
  objectGiven : ∀ {id row},
    catalog.find? (.object id) = some row → catalog.Given id.val
  /-- Also the schema of an object that outlived it had a number of its own. -/
  homeGiven : ∀ {id row},
    catalog.find? (.object id) = some row → catalog.Given row.schema.val
  numbersApart : ∀ {schema home object row},
    catalog.find? (.schema schema) = some home →
      catalog.find? (.object object) = some row → schema.val ≠ object.val
  schemaNames : ∀ {left right leftHome rightHome},
    catalog.find? (.schema left) = some leftHome →
      catalog.find? (.schema right) = some rightHome →
        leftHome.name = rightHome.name → left = right
  /-- Whether or not the schema still exists. -/
  objectNames : ∀ {left right leftRow rightRow},
    catalog.find? (.object left) = some leftRow →
      catalog.find? (.object right) = some rightRow →
        leftRow.schema = rightRow.schema → leftRow.name = rightRow.name →
          left = right
  grantLive : ∀ {object grantee grant},
    catalog.find? (.grant object grantee) = some grant → catalog.Live object
  registrationMatches : ∀ {id registration},
    catalog.find? (.registration id) = some registration →
      ∃ row, catalog.find? (.object id) = some row ∧ row.kind = .aggregate ∧
        row.name = registration.name ∧
          ∀ home, catalog.find? (.schema row.schema) = some home →
            home.name = registration.schemaName

theorem consistent_empty : empty.Consistent where
  filed := filed_empty
  schemaGiven found := by simp at found
  objectGiven found := by simp at found
  homeGiven found := by simp at found
  numbersApart found := by simp at found
  schemaNames found := by simp at found
  objectNames found := by simp at found
  grantLive found := by simp at found
  registrationMatches found := by simp at found

theorem Consistent.sound (consistent : catalog.Consistent) : catalog.Sound where
  grantLive := consistent.grantLive
  registrationLive found := by
    obtain ⟨row, rowFound, kind, -⟩ := consistent.registrationMatches found
    exact ⟨row, rowFound, kind⟩
  objectIssued live := by
    obtain ⟨row, found⟩ := live
    exact (consistent.objectGiven found).2

theorem Consistent.step_schemaGiven (consistent : catalog.Consistent)
    (room : catalog.HasRoomFor result)
    (step : Step catalog change result after) {id : SchemaId} {home : SchemaRow}
    (found : after.find? (.schema id) = some home) : after.Given id.val := by
  rcases step.schema_origin found with old | ⟨rfl, created, -⟩
  · exact (consistent.schemaGiven old).step room step
  · exact step.given_nextId room created

theorem Consistent.step_objectGiven (consistent : catalog.Consistent)
    (room : catalog.HasRoomFor result)
    (step : Step catalog change result after) {id : ObjectId} {row : ObjectRow}
    (found : after.find? (.object id) = some row) : after.Given id.val := by
  rcases step.object_origin found with old | ⟨rfl, created, -⟩
  · exact (consistent.objectGiven old).step room step
  · exact step.given_nextId room created

theorem Consistent.step_homeGiven (consistent : catalog.Consistent)
    (room : catalog.HasRoomFor result)
    (step : Step catalog change result after) {id : ObjectId} {row : ObjectRow}
    (found : after.find? (.object id) = some row) :
    after.Given row.schema.val := by
  rcases step.object_origin found with old | ⟨-, -, ⟨home, housed⟩, -⟩
  · exact (consistent.homeGiven old).step room step
  · exact (consistent.schemaGiven housed).step room step

theorem Consistent.step_numbersApart (consistent : catalog.Consistent)
    (room : catalog.HasRoomFor result)
    (step : Step catalog change result after) {schema : SchemaId}
    {home : SchemaRow} {object : ObjectId} {row : ObjectRow}
    (schemaFound : after.find? (.schema schema) = some home)
    (objectFound : after.find? (.object object) = some row) :
    schema.val ≠ object.val := by
  rcases step.object_origin objectFound with
    oldObject | ⟨rfl, created, -, -, sameSchemas⟩
  · rcases step.schema_origin schemaFound with oldSchema | ⟨rfl, created, -⟩
    · exact consistent.numbersApart oldSchema oldObject
    · exact (consistent.objectGiven oldObject).ne_nextId (room created)
  · -- A step that creates an object creates no schema.
    rw [sameSchemas] at schemaFound
    exact ((consistent.schemaGiven schemaFound).ne_nextId (room created)).symm

theorem Consistent.step_schemaNames (consistent : catalog.Consistent)
    (step : Step catalog change result after) {left right : SchemaId}
    {leftHome rightHome : SchemaRow}
    (leftFound : after.find? (.schema left) = some leftHome)
    (rightFound : after.find? (.schema right) = some rightHome)
    (named : leftHome.name = rightHome.name) : left = right := by
  rcases step.schema_origin leftFound with leftOld | ⟨rfl, -, leftFree⟩
  · rcases step.schema_origin rightFound with rightOld | ⟨rfl, -, rightFree⟩
    · exact consistent.schemaNames leftOld rightOld named
    · exact (schemaNamed?_eq_none_iff.mp rightFree _ _ leftOld named).elim
  · rcases step.schema_origin rightFound with rightOld | ⟨rfl, -, -⟩
    · exact (schemaNamed?_eq_none_iff.mp leftFree _ _ rightOld
        named.symm).elim
    · rfl

theorem Consistent.step_objectNames (consistent : catalog.Consistent)
    (step : Step catalog change result after) {left right : ObjectId}
    {leftRow rightRow : ObjectRow}
    (leftFound : after.find? (.object left) = some leftRow)
    (rightFound : after.find? (.object right) = some rightRow)
    (housed : leftRow.schema = rightRow.schema)
    (named : leftRow.name = rightRow.name) : left = right := by
  rcases step.object_origin leftFound with leftOld | ⟨rfl, -, -, leftFree, -⟩
  · rcases step.object_origin rightFound with
      rightOld | ⟨rfl, -, -, rightFree, -⟩
    · exact consistent.objectNames leftOld rightOld housed named
    · exact (hasObjectNamed_eq_false_iff.mp rightFree _ _ leftOld housed
        named).elim
  · rcases step.object_origin rightFound with rightOld | ⟨rfl, -⟩
    · exact (hasObjectNamed_eq_false_iff.mp leftFree _ _ rightOld housed.symm
        named.symm).elim
    · rfl

theorem Consistent.step_registrationMatches (consistent : catalog.Consistent)
    (room : catalog.HasRoomFor result)
    (step : Step catalog change result after) {id : ObjectId}
    {registration : Registration}
    (found : after.find? (.registration id) = some registration) :
    ∃ row, after.find? (.object id) = some row ∧ row.kind = .aggregate ∧
      row.name = registration.name ∧
        ∀ home, after.find? (.schema row.schema) = some home →
          home.name = registration.schemaName := by
  rcases step.registration_origin found with
    old | ⟨-, schema, home, rowFound, housed, named⟩
  · obtain ⟨row, rowFound, kind, named, homed⟩ :=
      consistent.registrationMatches old
    obtain ⟨kept, keptFound, -⟩ :=
      (consistent.sound.step room step).registrationLive found
    -- The object is still there, so it was not dropped and its row is the same.
    have same : after.find? (.object id) = some row := by
      have given := consistent.objectGiven rowFound
      rcases step.find?_of_given room (.object id) (by simp [Lookup.kind])
        given with unchanged | ⟨-, -, gone⟩
      · rw [unchanged, rowFound]
      · rw [gone] at keptFound
        contradiction
    refine ⟨row, same, kind, named, ?_⟩
    intro home housed
    rcases step.schema_origin housed with oldHome | ⟨fresh, created, -⟩
    · exact homed home oldHome
    · have given := consistent.homeGiven rowFound
      rw [fresh] at given
      exact (given.ne_nextId (room created) rfl).elim
  · refine ⟨_, rowFound, rfl, rfl, ?_⟩
    intro other otherFound
    rw [housed] at otherFound
    cases otherFound
    exact named

theorem Consistent.step (consistent : catalog.Consistent)
    (room : catalog.HasRoomFor result)
    (step : Step catalog change result after) : after.Consistent where
  filed := consistent.filed.step step
  schemaGiven := consistent.step_schemaGiven room step
  objectGiven := consistent.step_objectGiven room step
  homeGiven := consistent.step_homeGiven room step
  numbersApart := consistent.step_numbersApart room step
  schemaNames := consistent.step_schemaNames step
  objectNames := consistent.step_objectNames step
  grantLive := (consistent.sound.step room step).grantLive
  registrationMatches := consistent.step_registrationMatches room step

theorem consistent_run {history : List CatalogChange}
    (few : (empty.issued history).length < 2 ^ 64) :
    (empty.run history).Consistent :=
  run_induction consistent_empty Consistent.step few

/-! ## Search by name -/

theorem Filed.mem_schemas_iff (filed : catalog.Filed) {home : SchemaRow} :
    home ∈ catalog.schemas.toList.map Prod.snd ↔
      catalog.find? (.schema home.id) = some home := by
  simp only [List.mem_map, Prod.exists, exists_eq_right,
    Std.ExtTreeMap.mem_toList_iff_getElem?_eq_some]
  constructor
  · intro listed
    obtain ⟨id, found⟩ := listed
    have own : home.id = id := filed (.schema id) home found
    rw [own]
    exact found
  · intro found
    exact ⟨home.id, found⟩

/-- However the schemas are listed, the one found under a name is the only one
that has it. -/
theorem Consistent.find?_named_eq_some_iff (consistent : catalog.Consistent)
    {order : List SchemaRow}
    (listed : order.Perm (catalog.schemas.toList.map Prod.snd))
    {name : String} {home : SchemaRow} :
    order.find? (·.name = name) = some home ↔
      catalog.find? (.schema home.id) = some home ∧ home.name = name := by
  have exists_iff : ∀ {other}, other ∈ order ↔
      catalog.find? (.schema other.id) = some other :=
    listed.mem_iff.trans consistent.filed.mem_schemas_iff
  constructor
  · intro found
    refine ⟨exists_iff.mp (List.mem_of_find?_eq_some found), ?_⟩
    simpa using List.find?_some found
  · intro existing
    obtain ⟨homeFound, named⟩ := existing
    cases found : order.find? (·.name = name) with
    | none =>
        have unnamed := List.find?_eq_none.mp found home
          (exists_iff.mpr homeFound)
        simp [named] at unnamed
    | some other =>
        have otherFound := exists_iff.mp (List.mem_of_find?_eq_some found)
        have otherNamed : other.name = name := by
          simpa using List.find?_some found
        have same := consistent.schemaNames otherFound homeFound
          (otherNamed.trans named.symm)
        rw [same, homeFound] at otherFound
        rw [Option.some.inj otherFound]

end Catalog

/-- The rows of a catalog that a history leads to fit together, whether its
changes succeeded or failed, and the order of the schemas does not matter to
the search for a name. -/
theorem catalog_rows_fit_together {history : List CatalogChange}
    (few : (Catalog.empty.issued history).length < 2 ^ 64) :
    let catalog := Catalog.empty.run history
    catalog.Consistent ∧
      ∀ (name : String) (order : List SchemaRow),
        order.Perm (catalog.schemas.toList.map Prod.snd) →
          order.find? (·.name = name) = catalog.schemaNamed? name := by
  intro catalog
  have consistent : catalog.Consistent := Catalog.consistent_run few
  refine ⟨consistent, ?_⟩
  intro name order listed
  apply Option.ext
  intro home
  rw [consistent.find?_named_eq_some_iff listed, Catalog.schemaNamed?,
    consistent.find?_named_eq_some_iff (List.Perm.refl _)]

/-- A history in which a schema is dropped, which leaves a table and an
aggregate without one, and another schema takes its name. -/
def homeRebuilt : List CatalogChange :=
  [.createSchema "APP" "dba", .createObject ⟨1⟩ "ORDERS" .table,
    .createAggregate ⟨1⟩ "SPREAD" .double .double "stats.Spread",
    .grant (Grant.ofPrivileges "clerk" ⟨3⟩ [.execute] "dba"), .dropSchema ⟨1⟩,
    .createObject ⟨1⟩ "ITEMS" .table, .createSchema "APP" "clerk",
    .createSchema "AUDIT" "dba", .createObject ⟨4⟩ "ORDERS" .table]

theorem rebuilt_home_rows_fit :
    let catalog := Catalog.empty.run homeRebuilt
    (Catalog.empty.issued homeRebuilt).length < 2 ^ 64 ∧
      catalog.Consistent ∧
      catalog.schemas.toList.map Prod.snd =
        [⟨⟨4⟩, "APP", "clerk"⟩, ⟨⟨5⟩, "AUDIT", "dba"⟩] ∧
      [(⟨⟨5⟩, "AUDIT", "dba"⟩ : SchemaRow), ⟨⟨4⟩, "APP", "clerk"⟩].find?
        (·.name = "APP") = catalog.schemaNamed? "APP" := by
  intro catalog
  have few : (Catalog.empty.issued homeRebuilt).length < 2 ^ 64 := by decide
  have listed : catalog.schemas.toList.map Prod.snd =
      [⟨⟨4⟩, "APP", "clerk"⟩, ⟨⟨5⟩, "AUDIT", "dba"⟩] := by decide
  obtain ⟨consistent, searched⟩ := catalog_rows_fit_together few
  refine ⟨few, consistent, listed, searched "APP" _ ?_⟩
  rw [listed]
  exact List.Perm.swap _ _ _

end SqlAdmission
