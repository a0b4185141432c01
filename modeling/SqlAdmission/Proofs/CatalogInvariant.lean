import Mathlib.Algebra.Group.Nat.Defs
import Mathlib.Data.List.Induction
import SqlAdmission.Proofs.CatalogLookup

/-!
# Fresh identifiers

As long as fewer than `2 ^ 64` identifiers have been given out, the last of
them counts the creations.  A new identifier is then fresh, and grants and
registrations hang on live objects only.
-/

namespace SqlAdmission

namespace Catalog

variable {catalog after : Catalog} {change : CatalogChange}
  {result : Except CatalogError (Option UInt64)}

/-! ## Identifiers given out -/

/-- The identifier an outcome gives out. -/
def issued? : Except CatalogError (Option UInt64) → Option UInt64
  | .ok id => id
  | .error _ => none

/-- The identifiers a list of changes gives out, in order. -/
def issued (catalog : Catalog) : List CatalogChange → List UInt64
  | [] => []
  | change :: later =>
    (issued? (catalog.apply change).1).toList ++
      (catalog.apply change).2.issued later

theorem issued_append (catalog : Catalog) (earlier later : List CatalogChange) :
    catalog.issued (earlier ++ later) =
      catalog.issued earlier ++ (catalog.run earlier).issued later := by
  induction earlier generalizing catalog with
  | nil => rfl
  | cons change earlier induction =>
      simp [issued, induction, List.append_assoc]

theorem issued_append_singleton (catalog : Catalog)
    (earlier : List CatalogChange) (last : CatalogChange) :
    catalog.issued (earlier ++ [last]) =
      catalog.issued earlier ++
        (issued? ((catalog.run earlier).apply last).1).toList := by
  rw [issued_append]
  simp [issued]

/-- An outcome that gives out an identifier finds one that is left. -/
def HasRoomFor (catalog : Catalog)
    (result : Except CatalogError (Option UInt64)) : Prop :=
  issued? result ≠ none → catalog.lastId.toNat + 1 < 2 ^ 64

theorem Step.lastId (step : Step catalog change result after) :
    (issued? result = none ∧ after.lastId = catalog.lastId) ∨
      (issued? result = some catalog.nextId ∧
        after.lastId = catalog.nextId) := by
  cases step with
  | schemaCreated | objectCreated | aggregateCreated =>
      exact .inr ⟨rfl, rfl⟩
  | _ => exact .inl ⟨rfl, rfl⟩

theorem toNat_nextId (room : catalog.lastId.toNat + 1 < 2 ^ 64) :
    catalog.nextId.toNat = catalog.lastId.toNat + 1 := by
  simp only [nextId, UInt64.toNat_add, UInt64.toNat_one]
  omega

/-- Until the identifiers run out, the last one is the number of creations. -/
theorem toNat_lastId_run {changes : List CatalogChange}
    (few : (empty.issued changes).length < 2 ^ 64) :
    (empty.run changes).lastId.toNat = (empty.issued changes).length := by
  induction changes using List.reverseRecOn with
  | nil => rfl
  | append_singleton earlier last induction =>
      rw [issued_append_singleton, List.length_append] at few ⊢
      have counted := induction (by omega)
      rw [run_append_singleton]
      rcases (step_apply (empty.run earlier) last).lastId with
        ⟨none, same⟩ | ⟨some, next⟩
      · rw [none, same, counted]
        rfl
      · rw [some] at few ⊢
        rw [← counted] at few
        rw [next, toNat_nextId few, counted]
        rfl

/-- A history that has room for a last change had room before it. -/
theorem few_earlier {earlier later : List CatalogChange}
    (few : (empty.issued (earlier ++ later)).length < 2 ^ 64) :
    (empty.issued earlier).length < 2 ^ 64 := by
  rw [issued_append, List.length_append] at few
  omega

theorem room_of_few {earlier : List CatalogChange} {last : CatalogChange}
    (few : (empty.issued (earlier ++ [last])).length < 2 ^ 64) :
    (empty.run earlier).HasRoomFor ((empty.run earlier).apply last).1 := by
  intro given
  rw [toNat_lastId_run (few_earlier few)]
  obtain ⟨id, created⟩ := Option.ne_none_iff_exists'.mp given
  rw [issued_append_singleton, List.length_append] at few
  simpa [created] using few

theorem lastId_run_mono {earlier later : List CatalogChange}
    (few : (empty.issued (earlier ++ later)).length < 2 ^ 64) :
    (empty.run earlier).lastId.toNat ≤
      (empty.run (earlier ++ later)).lastId.toNat := by
  rw [toNat_lastId_run few]
  rw [issued_append, List.length_append] at few ⊢
  rw [toNat_lastId_run (by omega)]
  omega

/-- A property of the empty catalog that every step with an identifier left
preserves holds after a history that does not run out of them. -/
theorem run_induction {property : Catalog → Prop}
    (initial : property Catalog.empty)
    (preserved : ∀ {catalog change result after}, property catalog →
      catalog.HasRoomFor result → Step catalog change result after →
        property after)
    {history : List CatalogChange}
    (few : (empty.issued history).length < 2 ^ 64) :
    property (empty.run history) := by
  induction history using List.reverseRecOn with
  | nil => exact initial
  | append_singleton earlier last induction =>
      rw [run_append_singleton]
      exact preserved (induction (few_earlier few)) (room_of_few few)
        (step_apply _ last)

/-! ## Live objects -/

/-- An object of this identifier exists. -/
def Live (catalog : Catalog) (id : ObjectId) : Prop :=
  ∃ row, catalog.find? (.object id) = some row

theorem live_iff_mem {id : ObjectId} :
    catalog.Live id ↔ id ∈ catalog.objects := by
  rw [Std.ExtTreeMap.mem_iff_isSome_getElem?, Option.isSome_iff_exists]
  rfl

/-- What hangs on objects hangs on live ones, and no object has an identifier
that is yet to be given out. -/
structure Sound (catalog : Catalog) : Prop where
  grantLive : ∀ {object grantee grant},
    catalog.find? (.grant object grantee) = some grant → catalog.Live object
  registrationLive : ∀ {id registration},
    catalog.find? (.registration id) = some registration →
      ∃ row, catalog.find? (.object id) = some row ∧ row.kind = .aggregate
  objectIssued : ∀ {id},
    catalog.Live id → id.val.toNat ≤ catalog.lastId.toNat

theorem sound_empty : empty.Sound where
  grantLive found := by simp at found
  registrationLive found := by simp at found
  objectIssued live := by
    obtain ⟨row, found⟩ := live
    simp at found

theorem Sound.fresh (sound : catalog.Sound)
    (room : catalog.lastId.toNat + 1 < 2 ^ 64) :
    ¬catalog.Live ⟨catalog.nextId⟩ := by
  intro live
  have bounded := sound.objectIssued live
  rw [toNat_nextId room] at bounded
  omega

/-- An object exists after a step if it did before, or if the step gave out
its identifier. -/
theorem Step.live_cases (step : Step catalog change result after)
    {id : ObjectId} (live : after.Live id) :
    catalog.Live id ∨
      id = ⟨catalog.nextId⟩ ∧ issued? result = some catalog.nextId := by
  obtain ⟨row, found⟩ := live
  rw [step.find?] at found
  cases step with
  | objectCreated housed free | aggregateCreated housed free =>
      simp only [findAfter] at found
      split at found
      · rename_i same
        exact .inr ⟨same.symm, rfl⟩
      · exact .inl ⟨row, found⟩
  | objectDropped live =>
      simp only [findAfter] at found
      split at found
      · contradiction
      · exact .inl ⟨row, found⟩
  | _ => exact .inl ⟨row, found⟩

/-- A row of an object stays until the object is dropped. -/
theorem Sound.object_kept (sound : catalog.Sound)
    (room : catalog.HasRoomFor result)
    (step : Step catalog change result after) {id : ObjectId} {row : ObjectRow}
    (found : catalog.find? (.object id) = some row)
    (kept : change ≠ .dropObject id) :
    after.find? (.object id) = some row := by
  rw [step.find?]
  cases step with
  | objectCreated housed free | aggregateCreated housed free =>
      have fresh := sound.fresh (room (by simp [issued?]))
      have different : (⟨catalog.nextId⟩ : ObjectId) ≠ id := by
        intro equality
        subst equality
        exact fresh ⟨row, found⟩
      simp only [findAfter, if_neg different]
      exact found
  | @objectDropped dropped live =>
      have different : dropped ≠ id := by
        intro equality
        subst equality
        exact kept rfl
      simp only [findAfter, if_neg different]
      exact found
  | _ => exact found

/-- An object stays until it is dropped. -/
theorem Step.live_kept (step : Step catalog change result after)
    {id : ObjectId} (live : catalog.Live id) (kept : change ≠ .dropObject id) :
    after.Live id := by
  obtain ⟨row, found⟩ := live
  unfold Live
  rw [step.find?]
  cases step with
  | objectCreated housed free | aggregateCreated housed free =>
      simp only [findAfter]
      split
      · exact ⟨_, rfl⟩
      · exact ⟨row, found⟩
  | @objectDropped dropped live =>
      have different : dropped ≠ id := by
        intro equality
        subst equality
        exact kept rfl
      simp only [findAfter, if_neg different]
      exact ⟨row, found⟩
  | _ => exact ⟨row, found⟩

/-- A step leaves no grant on an object that does not exist. -/
theorem Step.grantLive (step : Step catalog change result after)
    {object : ObjectId} {grantee : String}
    (owned : ∀ {own}, catalog.find? (.grant object grantee) = some own →
      catalog.Live object)
    {grant : Grant} (found : after.find? (.grant object grantee) = some grant) :
    after.Live object := by
  have kept : ∀ {own : Grant},
      catalog.find? (.grant object grantee) = some own →
        change ≠ .dropObject object → after.Live object := by
    intro own ownFound notDropped
    exact step.live_kept (owned ownFound) notDropped
  rw [step.find?] at found
  cases step with
  | @granted added live =>
      simp only [findAfter] at found
      split at found
      · rename_i key
        have target : added.object = object := congrArg GrantKey.object key
        rw [← target]
        exact live_iff_mem.mpr live
      · exact kept found (by simp)
  | revoked =>
      simp only [findAfter] at found
      split at found
      · obtain ⟨revoked, -⟩ := Option.filter_eq_some_iff.mp found
        obtain ⟨stored, own, -⟩ := Option.map_eq_some_iff.mp revoked
        exact kept own (by simp)
      · exact kept found (by simp)
  | objectDropped live =>
      simp only [findAfter] at found
      split at found
      · contradiction
      · rename_i different
        exact kept found (by simpa using different)
  | refused refusal => exact owned found
  | _ => exact kept found (by simp)

theorem Reachable.grantLive (reachable : catalog.Reachable)
    {object : ObjectId} {grantee : String} {grant : Grant}
    (found : catalog.find? (.grant object grantee) = some grant) :
    catalog.Live object := by
  let property : Catalog → Prop := fun catalog =>
    ∀ grant, catalog.find? (.grant object grantee) = some grant →
      catalog.Live object
  have initial : property Catalog.empty := by
    intro grant found
    simp at found
  have every : property catalog := by
    refine reachable.induction initial ?_
    intro catalog change result after owned step grant found
    exact step.grantLive (owned _) found
  exact every grant found

theorem Sound.step_registrationLive (sound : catalog.Sound)
    (room : catalog.HasRoomFor result)
    (step : Step catalog change result after) {id : ObjectId}
    {registration : Registration}
    (found : after.find? (.registration id) = some registration) :
    ∃ row, after.find? (.object id) = some row ∧ row.kind = .aggregate := by
  have kept : ∀ {own : Registration},
      catalog.find? (.registration id) = some own →
        change ≠ .dropObject id →
          ∃ row, after.find? (.object id) = some row ∧
            row.kind = .aggregate := by
    intro own ownFound notDropped
    obtain ⟨row, rowFound, kind⟩ := sound.registrationLive ownFound
    exact ⟨row, sound.object_kept room step rowFound notDropped, kind⟩
  rw [step.find?] at found
  have created := step.find? (.object id)
  cases step with
  | aggregateCreated housed free =>
      simp only [findAfter] at found created
      split at found
      · rename_i same
        rw [if_pos same] at created
        exact ⟨_, created, rfl⟩
      · exact kept found (by simp)
  | objectDropped live =>
      simp only [findAfter] at found
      split at found
      · contradiction
      · rename_i different
        exact kept found (by simpa using different)
  | refused refusal => exact sound.registrationLive found
  | _ => exact kept found (by simp)

theorem Sound.step_objectIssued (sound : catalog.Sound)
    (room : catalog.HasRoomFor result)
    (step : Step catalog change result after) {id : ObjectId}
    (live : after.Live id) : id.val.toNat ≤ after.lastId.toNat := by
  rcases step.live_cases live with old | ⟨rfl, given⟩
  · have bounded := sound.objectIssued old
    rcases step.lastId with ⟨-, same⟩ | ⟨given, next⟩
    · rw [same]
      exact bounded
    · rw [next, toNat_nextId (room (by simp [given]))]
      omega
  · rcases step.lastId with ⟨none, -⟩ | ⟨-, next⟩
    · simp [none] at given
    · exact Nat.le_of_eq (congrArg UInt64.toNat next.symm)

theorem Sound.step (sound : catalog.Sound)
    (room : catalog.HasRoomFor result)
    (step : Step catalog change result after) : after.Sound where
  grantLive := step.grantLive sound.grantLive
  registrationLive := sound.step_registrationLive room step
  objectIssued := sound.step_objectIssued room step

theorem sound_run {changes : List CatalogChange}
    (few : (empty.issued changes).length < 2 ^ 64) :
    (empty.run changes).Sound :=
  run_induction sound_empty Sound.step few

end Catalog

end SqlAdmission
