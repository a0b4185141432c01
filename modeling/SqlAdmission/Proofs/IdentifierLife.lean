import SqlAdmission.Proofs.AggregateHistory
import SqlAdmission.Proofs.CatalogConsistency

/-!
# The life of an identifier

Creations are numbered in order, whatever they create.  What a creation stores
under its number is found there, unchanged, until it is dropped.  After that
nothing is found there again, and whatever still names the number is told so.
-/

namespace SqlAdmission

namespace Catalog

variable {catalog : Catalog} {earlier later : List CatalogChange}

/-! ## Numbering -/

/-- The creations of a history are numbered from one, without a gap. -/
theorem toNat_issued {history : List CatalogChange}
    (few : (empty.issued history).length < 2 ^ 64) {place : Nat} {id : UInt64}
    (issued : (empty.issued history)[place]? = some id) :
    id.toNat = place + 1 := by
  induction history using List.reverseRecOn with
  | nil => simp [Catalog.issued] at issued
  | append_singleton earlier last induction =>
      have before := few_earlier few
      rw [issued_append_singleton] at issued
      rcases (step_apply (empty.run earlier) last).lastId with
        ⟨nothing, -⟩ | ⟨created, -⟩
      · rw [nothing] at issued
        exact induction before (by simpa using issued)
      · rw [created] at issued
        by_cases old : place < (empty.issued earlier).length
        · rw [List.getElem?_append_left old] at issued
          exact induction before issued
        · rw [List.getElem?_append_right (Nat.le_of_not_lt old)] at issued
          obtain ⟨inside, rfl⟩ := List.getElem?_eq_some_iff.mp issued
          have room := room_of_few few (by simp [created])
          simp only [Option.toList_some, List.length_singleton] at inside
          simp only [Option.toList_some, List.getElem_singleton]
          rw [toNat_nextId room, toNat_lastId_run before]
          omega

/-! ## Rows in a history -/

/-- No change of a list succeeds in dropping what a look-up asks for. -/
def Keeps (catalog : Catalog) (wanted : Lookup)
    (changes : List CatalogChange) : Prop :=
  ∀ before change rest, changes = before ++ change :: rest →
    change.Drops wanted → ((catalog.run before).apply change).1 ≠ .ok none

theorem keeps_append_singleton {wanted : Lookup} {changes : List CatalogChange}
    {last : CatalogChange} (keeps : catalog.Keeps wanted (changes ++ [last])) :
    catalog.Keeps wanted changes ∧
      (last.Drops wanted → ((catalog.run changes).apply last).1 ≠ .ok none) := by
  constructor
  · intro before change rest split
    exact keeps before change (rest ++ [last]) (by simp [split])
  · exact keeps changes last [] rfl

theorem keeps_of_forall_not_drops {wanted : Lookup}
    {changes : List CatalogChange}
    (spared : ∀ change ∈ changes, ¬change.Drops wanted) :
    catalog.Keeps wanted changes := by
  intro before change rest split drops
  exact (spared change (by simp [split]) drops).elim

/-- A registration is dropped with its object only. -/
theorem Keeps.registration {id : ObjectId} {changes : List CatalogChange}
    (keeps : catalog.Keeps (.object id) changes) :
    catalog.Keeps (.registration id) changes := by
  intro before change rest split drops
  refine keeps before change rest split ?_
  cases change <;> exact drops

theorem Given.run (few : (empty.issued (earlier ++ later)).length < 2 ^ 64)
    {number : UInt64} (given : (empty.run earlier).Given number) :
    (empty.run (earlier ++ later)).Given number :=
  ⟨given.1, Nat.le_trans given.2 (lastId_run_mono few)⟩

/-- What is found under a number that has been given out is found there for as
long as it is not dropped. -/
theorem find?_run_of_keeps
    (few : (empty.issued (earlier ++ later)).length < 2 ^ 64)
    (wanted : Lookup) (lasting : wanted.kind ≠ .grant)
    (given : (empty.run earlier).Given wanted.number)
    (keeps : (empty.run earlier).Keeps wanted later) :
    (empty.run (earlier ++ later)).find? wanted =
      (empty.run earlier).find? wanted := by
  induction later using List.reverseRecOn with
  | nil => rw [List.append_nil]
  | append_singleton later last induction =>
      obtain ⟨kept, undropped⟩ := keeps_append_singleton keeps
      rw [← List.append_assoc] at few ⊢
      rw [← induction (few_earlier few) kept, run_append_singleton]
      rw [← run_append] at undropped
      rcases (step_apply (empty.run (earlier ++ later)) last).find?_of_given
        (room_of_few few) wanted lasting (given.run (few_earlier few)) with
        same | ⟨drops, dropped, -⟩
      · exact same
      · exact (undropped drops dropped).elim

/-- Where nothing is found under a number that has been given out, nothing is
found ever after. -/
theorem find?_run_of_gone
    (few : (empty.issued (earlier ++ later)).length < 2 ^ 64)
    (wanted : Lookup) (lasting : wanted.kind ≠ .grant)
    (given : (empty.run earlier).Given wanted.number)
    (gone : (empty.run earlier).find? wanted = none) :
    (empty.run (earlier ++ later)).find? wanted = none := by
  induction later using List.reverseRecOn with
  | nil => rwa [List.append_nil]
  | append_singleton later last induction =>
      rw [← List.append_assoc] at few ⊢
      have before := induction (few_earlier few)
      rw [run_append_singleton]
      rcases (step_apply (empty.run (earlier ++ later)) last).find?_of_given
        (room_of_few few) wanted lasting (given.run (few_earlier few)) with
        same | ⟨-, -, nothing⟩
      · exact same.trans before
      · exact nothing

/-- What has been dropped is not found ever after. -/
theorem find?_run_of_drops {change : CatalogChange}
    (few : (empty.issued (earlier ++ [change] ++ later)).length < 2 ^ 64)
    (wanted : Lookup) (lasting : wanted.kind ≠ .grant)
    (given : (empty.run earlier).Given wanted.number)
    (drops : change.Drops wanted)
    (dropped : ((empty.run earlier).apply change).1 = .ok none) :
    (empty.run (earlier ++ [change] ++ later)).find? wanted = none := by
  refine find?_run_of_gone few wanted lasting (given.run (few_earlier few)) ?_
  have step := step_apply (empty.run earlier) change
  rw [dropped] at step
  rw [run_append_singleton]
  exact step.find?_of_drops drops

/-! ## Creation -/

/-- A change creates an object, and the registration declared with it if it is
declared as an aggregate. -/
inductive Creates (catalog : Catalog) :
    CatalogChange → ObjectRow → Option Registration → Prop where
  | object {schema : SchemaId} {name : String} {kind : ObjectKind}
      {id : ObjectId}
      (created : (catalog.createObject schema name kind).1 = .ok id) :
      Creates catalog (.createObject schema name kind) ⟨id, schema, name, kind⟩
        none
  | aggregate {schema : SchemaId} {name implementation : String}
      {inputType returnType : DataType} {id : ObjectId} {home : SchemaRow}
      (created : (catalog.createAggregate schema name inputType returnType
        implementation).1 = .ok id)
      (housed : catalog.find? (.schema schema) = some home) :
      Creates catalog
        (.createAggregate schema name inputType returnType implementation)
        ⟨id, schema, name, .aggregate⟩
        (some ⟨id, home.name, name, inputType, returnType, implementation⟩)

theorem createObject_eq_ok_iff {schema : SchemaId} {name : String}
    {kind : ObjectKind} {id : ObjectId} :
    (catalog.createObject schema name kind).1 = .ok id ↔
      (∃ home, catalog.find? (.schema schema) = some home) ∧
        catalog.hasObjectNamed schema name = false ∧ ⟨catalog.nextId⟩ = id := by
  simp only [createObject, find?]
  cases catalog.schemas[schema]? with
  | none => simp
  | some home => cases catalog.hasObjectNamed schema name <;> simp

theorem createSchema_eq_ok_iff {name owner : String} {id : SchemaId} :
    (catalog.createSchema name owner).1 = .ok id ↔
      catalog.schemaNamed? name = none ∧ ⟨catalog.nextId⟩ = id := by
  unfold createSchema
  cases catalog.schemaNamed? name <;> simp

theorem Creates.found {change : CatalogChange} {row : ObjectRow}
    {registration : Option Registration}
    (creates : catalog.Creates change row registration) (sound : catalog.Sound)
    (room : catalog.HasRoomFor (catalog.apply change).1) :
    (catalog.apply change).2.find? (.object row.id) = some row ∧
      (catalog.apply change).2.find? (.registration row.id) = registration := by
  cases creates with
  | @object schema name kind id created =>
      have step := step_apply catalog (.createObject schema name kind)
      have issues : (catalog.apply (.createObject schema name kind)).1 =
          .ok (some id.val) := by
        simp [apply, created, Except.map]
      obtain ⟨-, -, rfl⟩ := createObject_eq_ok_iff.mp created
      have unregistered :
          catalog.find? (.registration ⟨catalog.nextId⟩) = none := by
        cases found : catalog.find? (.registration ⟨catalog.nextId⟩) with
        | none => rfl
        | some registration =>
            obtain ⟨row, rowFound, -⟩ := sound.registrationLive found
            exact (sound.fresh (room (by simp [issues, issued?]))
              ⟨row, rowFound⟩).elim
      rw [step.find?, step.find?, issues]
      exact ⟨by simp [findAfter], unregistered⟩
  | aggregate created housed => exact find?_createAggregate created housed

theorem find?_createSchema {name owner : String} {id : SchemaId}
    (created : (catalog.createSchema name owner).1 = .ok id) :
    (catalog.apply (.createSchema name owner)).2.find? (.schema id) =
      some ⟨id, name, owner⟩ := by
  have issues : (catalog.apply (.createSchema name owner)).1 =
      .ok (some id.val) := by
    simp [apply, created, Except.map]
  obtain ⟨-, rfl⟩ := createSchema_eq_ok_iff.mp created
  rw [(step_apply catalog (.createSchema name owner)).find?, issues]
  simp [findAfter]

/-! ## Drops -/

/-- Nothing is left of an object, and whatever still names it fails for it. -/
structure ObjectGone (catalog : Catalog) (id : ObjectId) : Prop where
  object : catalog.find? (.object id) = none
  registration : catalog.find? (.registration id) = none
  grants : ∀ grantee, catalog.find? (.grant id grantee) = none
  ungrantable : ∀ grant : Grant, grant.object = id →
    (catalog.grant grant).1 = .error (.objectNotFound id)
  dangling : ∀ (artifacts : ArtifactStore) (statement : Statement)
    (mode : Access) (forGrant : Bool),
    ({ catalog, artifacts } : Stores).settle
        (statement.check (.access id mode) forGrant) =
      .error (.danglingReference mode.targetKind id.val)

theorem Sound.objectGone (sound : catalog.Sound) {id : ObjectId}
    (unfound : catalog.find? (.object id) = none) : catalog.ObjectGone id where
  object := unfound
  registration := by
    cases found : catalog.find? (.registration id) with
    | none => rfl
    | some registration =>
        obtain ⟨row, rowFound, -⟩ := sound.registrationLive found
        rw [unfound] at rowFound
        contradiction
  grants grantee := by
    cases found : catalog.find? (.grant id grantee) with
    | none => rfl
    | some grant =>
        obtain ⟨row, rowFound⟩ := sound.grantLive found
        rw [unfound] at rowFound
        contradiction
  ungrantable grant target := by
    have absent : grant.object ∉ catalog.objects := by
      rw [target, ← live_iff_mem]
      rintro ⟨row, rowFound⟩
      rw [unfound] at rowFound
      contradiction
    rw [Catalog.grant, if_neg absent, target]
  dangling artifacts statement mode forGrant := by
    apply Stores.settle_check_access_of_unfit
    rintro ⟨row, rowFound, -⟩
    rw [unfound] at rowFound
    contradiction

/-- Nothing is left of a schema, and whatever still names it fails for it. -/
structure SchemaGone (catalog : Catalog) (id : SchemaId) : Prop where
  schema : catalog.find? (.schema id) = none
  uninhabitable : ∀ name kind,
    (catalog.createObject id name kind).1 = .error (.schemaNotFound id)
  undeclarable : ∀ name inputType returnType implementation,
    (catalog.createAggregate id name inputType returnType implementation).1 =
      .error (.schemaNotFound id)
  dangling : ∀ (artifacts : ArtifactStore) (statement : Statement)
    (forGrant : Bool),
    ({ catalog, artifacts } : Stores).settle
        (statement.check (.ownership id) forGrant) =
      .error (.danglingReference "schema" id.val)

theorem schemaGone_of_find?_eq_none {id : SchemaId}
    (unfound : catalog.find? (.schema id) = none) : catalog.SchemaGone id where
  schema := unfound
  uninhabitable name kind := by
    have absent : catalog.schemas[id]? = none := unfound
    simp [createObject, absent]
  undeclarable name inputType returnType implementation := by
    have absent : catalog.schemas[id]? = none := unfound
    simp [createAggregate, createObject, absent]
  dangling artifacts statement forGrant := by
    rw [Stores.settle_check_ownership, unfound]

theorem dropObject_eq_ok_iff {id : ObjectId} :
    (catalog.dropObject id).1 = .ok () ↔ catalog.Live id := by
  rw [live_iff_mem]
  unfold dropObject
  by_cases live : id ∈ catalog.objects
  · rw [if_pos live]
    exact iff_of_true rfl live
  · rw [if_neg live]
    exact iff_of_false (by simp) live

theorem dropSchema_eq_ok_iff {id : SchemaId} :
    (catalog.dropSchema id).1 = .ok () ↔
      ∃ home, catalog.find? (.schema id) = some home := by
  rw [← Option.ne_none_iff_exists', ne_eq, find?_schema_eq_none_iff, not_not]
  unfold dropSchema
  by_cases live : id ∈ catalog.schemas
  · rw [if_pos live]
    exact iff_of_true rfl live
  · rw [if_neg live]
    exact iff_of_false (by simp) live

/-! ## Whole lives -/

/-- What a creation stores is found until it is dropped. -/
theorem Creates.kept {change : CatalogChange} {row : ObjectRow}
    {registration : Option Registration}
    (few : (empty.issued (earlier ++ [change] ++ later)).length < 2 ^ 64)
    (creates : (empty.run earlier).Creates change row registration)
    (keeps : (empty.run (earlier ++ [change])).Keeps (.object row.id) later) :
    (empty.run (earlier ++ [change] ++ later)).find? (.object row.id) =
        some row ∧
      (empty.run (earlier ++ [change] ++ later)).find? (.registration row.id) =
        registration := by
  have started := few_earlier few
  obtain ⟨rowFound, registered⟩ := creates.found
    (sound_run (few_earlier started)) (room_of_few started)
  rw [← run_append_singleton] at rowFound registered
  have given := (consistent_run started).objectGiven rowFound
  have rowKept :=
    find?_run_of_keeps few (.object row.id) (by simp [Lookup.kind]) given keeps
  have registrationKept := find?_run_of_keeps few (.registration row.id)
    (by simp [Lookup.kind]) given keeps.registration
  exact ⟨rowKept.trans rowFound, registrationKept.trans registered⟩

theorem find?_run_of_createSchema {name owner : String} {id : SchemaId}
    (few : (empty.issued
      (earlier ++ [.createSchema name owner] ++ later)).length < 2 ^ 64)
    (created : ((empty.run earlier).createSchema name owner).1 = .ok id)
    (keeps : (empty.run (earlier ++ [.createSchema name owner])).Keeps
      (.schema id) later) :
    (empty.run (earlier ++ [.createSchema name owner] ++ later)).find?
        (.schema id) = some ⟨id, name, owner⟩ := by
  have found := find?_createSchema created
  rw [← run_append_singleton] at found
  have given := (consistent_run (few_earlier few)).schemaGiven found
  have kept :=
    find?_run_of_keeps few (.schema id) (by simp [Lookup.kind]) given keeps
  exact kept.trans found

theorem objectGone_run {id : ObjectId}
    (few : (empty.issued
      (earlier ++ [.dropObject id] ++ later)).length < 2 ^ 64)
    (dropped : ((empty.run earlier).dropObject id).1 = .ok ()) :
    (empty.run (earlier ++ [.dropObject id] ++ later)).ObjectGone id := by
  have before := few_earlier (few_earlier few)
  obtain ⟨row, found⟩ := dropObject_eq_ok_iff.mp dropped
  have given := (consistent_run before).objectGiven found
  have gone := find?_run_of_drops few (.object id)
    (by simp [Lookup.kind]) given rfl (by simp [apply, dropped, Except.map])
  exact (sound_run few).objectGone gone

theorem schemaGone_run {id : SchemaId}
    (few : (empty.issued
      (earlier ++ [.dropSchema id] ++ later)).length < 2 ^ 64)
    (dropped : ((empty.run earlier).dropSchema id).1 = .ok ()) :
    (empty.run (earlier ++ [.dropSchema id] ++ later)).SchemaGone id := by
  have before := few_earlier (few_earlier few)
  obtain ⟨home, found⟩ := dropSchema_eq_ok_iff.mp dropped
  have given := (consistent_run before).schemaGiven found
  have gone := find?_run_of_drops few (.schema id)
    (by simp [Lookup.kind]) given rfl (by simp [apply, dropped, Except.map])
  exact schemaGone_of_find?_eq_none gone

end Catalog

open Catalog in
/-- The creations of a history are numbered in order.  At any point of it, what
a creation stores is found for as long as it is not dropped, whatever happens
to other rows, and what is dropped is gone for the rest of it. -/
theorem identifiers_used_once {history : List CatalogChange}
    (few : (empty.issued history).length < 2 ^ 64) :
    (∀ place id, (empty.issued history)[place]? = some id →
      id.toNat = place + 1) ∧
    ∀ earlier change later, history = earlier ++ [change] ++ later →
      let before := empty.run earlier
      let next := empty.run (earlier ++ [change])
      let now := empty.run history
      (∀ row registration, before.Creates change row registration →
        next.Keeps (.object row.id) later →
          now.find? (.object row.id) = some row ∧
            now.find? (.registration row.id) = registration) ∧
      (∀ name owner id, change = .createSchema name owner →
        (before.createSchema name owner).1 = .ok id →
          next.Keeps (.schema id) later →
            now.find? (.schema id) = some ⟨id, name, owner⟩) ∧
      (∀ id, change = .dropObject id → (before.dropObject id).1 = .ok () →
        now.ObjectGone id) ∧
      ∀ id, change = .dropSchema id → (before.dropSchema id).1 = .ok () →
        now.SchemaGone id := by
  refine ⟨fun place id => toNat_issued few, ?_⟩
  intro earlier change later split
  subst split
  intro before next now
  refine ⟨?_, ?_, ?_, ?_⟩
  · intro row registration creates keeps
    exact creates.kept few keeps
  · intro name owner id equality created keeps
    subst equality
    exact find?_run_of_createSchema few created keeps
  · intro id equality dropped
    subst equality
    exact objectGone_run few dropped
  · intro id equality dropped
    subst equality
    exact schemaGone_run few dropped

/-- An aggregate that is dropped and declared anew under the same name. -/
def spreadReplaced : List CatalogChange :=
  [.createSchema "APP" "dba",
    .createAggregate ⟨1⟩ "SPREAD" .double .double "stats.Spread",
    .grant (Grant.ofPrivileges "clerk" ⟨2⟩ [.execute] "dba"),
    .dropObject ⟨2⟩,
    .createAggregate ⟨1⟩ "SPREAD" .double .double "stats.Spread",
    .dropSchema ⟨1⟩]

theorem replaced_spread_gone :
    let catalog := Catalog.empty.run spreadReplaced
    (Catalog.empty.issued spreadReplaced).length < 2 ^ 64 ∧
      catalog.ObjectGone ⟨2⟩ ∧ catalog.SchemaGone ⟨1⟩ ∧
      catalog.find? (.object ⟨3⟩) = some ⟨⟨3⟩, ⟨1⟩, "SPREAD", .aggregate⟩ ∧
      catalog.find? (.registration ⟨3⟩) =
        some ⟨⟨3⟩, "APP", "SPREAD", .double, .double, "stats.Spread"⟩ := by
  intro catalog
  have few : (Catalog.empty.issued spreadReplaced).length < 2 ^ 64 := by decide
  have lives := (identifiers_used_once few).2
  obtain ⟨-, -, objectGone, -⟩ :=
    lives (spreadReplaced.take 3) (.dropObject ⟨2⟩) (spreadReplaced.drop 4) rfl
  obtain ⟨kept, -, -, -⟩ :=
    lives (spreadReplaced.take 4) _ (spreadReplaced.drop 5) rfl
  obtain ⟨-, -, -, schemaGone⟩ :=
    lives (spreadReplaced.take 5) (.dropSchema ⟨1⟩) [] rfl
  have spared : (Catalog.empty.run (spreadReplaced.take 5)).Keeps (.object ⟨3⟩)
      (spreadReplaced.drop 5) := by
    apply Catalog.keeps_of_forall_not_drops
    intro change member
    rw [List.mem_singleton.mp member]
    exact id
  have unchanged := kept _ _ (.aggregate rfl rfl) spared
  exact ⟨few, objectGone ⟨2⟩ rfl rfl, schemaGone ⟨1⟩ rfl rfl, unchanged⟩

end SqlAdmission
