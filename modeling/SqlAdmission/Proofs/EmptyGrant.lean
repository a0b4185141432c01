import Mathlib.Data.Set.Card
import Mathlib.Tactic.TFAE
import SqlAdmission.Grant.Lemmas
import SqlAdmission.Proofs.CatalogInvariant
import SqlAdmission.Proofs.Standing

/-!
# Empty grants

A revocation removes a grant that carries nothing any more, but a grant that
carries nothing from the start is stored as it is made.  It stays until
something is granted or revoked at its place or the object is dropped.  Every
other grant that is stored carries a privilege, so that the grants stored are
those that convey something together with these empty ones.
-/

namespace SqlAdmission

namespace Grant

theorem isEmpty_merge_iff {own more : Grant} :
    (own.merge more).isEmpty = true ↔
      own.isEmpty = true ∧ more.isEmpty = true := by
  simp only [isEmpty_iff, scope?_merge, ← forall_and]
  refine forall_congr' fun privilege => ?_
  cases own.scope? privilege <;> cases more.scope? privilege <;> simp

theorem isEmpty_iff_forall_holds {grant : Grant} :
    grant.isEmpty = true ↔ ¬∃ privilege, grant.holds privilege = true := by
  simp [isEmpty_iff, holds]

end Grant

namespace Catalog

variable {catalog after : Catalog} {change : CatalogChange}
  {result : Except CatalogError (Option UInt64)} {key : GrantKey}

/-! ## What is stored at a place -/

/-- The grant that a look-up finds at a place. -/
def grantAt? (catalog : Catalog) (key : GrantKey) : Option Grant :=
  catalog.find? (.grant key.object key.grantee)

/-- A grant is stored at the place and carries some privilege. -/
def Holding (catalog : Catalog) (key : GrantKey) : Prop :=
  ∃ grant, catalog.grantAt? key = some grant ∧
    ∃ privilege, grant.holds privilege = true

/-- A grant is stored at the place and carries nothing. -/
def Idle (catalog : Catalog) (key : GrantKey) : Prop :=
  ∃ grant, catalog.grantAt? key = some grant ∧ grant.isEmpty = true

theorem not_holding_and_idle : ¬(catalog.Holding key ∧ catalog.Idle key) := by
  intro both
  obtain ⟨⟨grant, found, holds⟩, ⟨same, also, empty⟩⟩ := both
  cases found.symm.trans also
  exact Grant.isEmpty_iff_forall_holds.mp empty holds

theorem grantAt?_ne_none_iff :
    catalog.grantAt? key ≠ none ↔ catalog.Holding key ∨ catalog.Idle key := by
  constructor
  · intro stored
    obtain ⟨grant, found⟩ := Option.ne_none_iff_exists'.mp stored
    by_cases holds : ∃ privilege, grant.holds privilege = true
    · exact .inl ⟨grant, found, holds⟩
    · exact .inr ⟨grant, found, Grant.isEmpty_iff_forall_holds.mpr holds⟩
  · intro stored
    obtain ⟨grant, found, -⟩ | ⟨grant, found, -⟩ := stored
    · simp [found]
    · simp [found]

/-! ## Steps -/

/-- The changes after which no empty grant is stored at a place. -/
inductive Disturbs (key : GrantKey) : CatalogChange → Prop where
  | granted {grant : Grant} (filed : grant.key = key)
      (carrying : grant.isEmpty = false) : Disturbs key (.grant grant)
  | revoked {privilege : Privilege} :
      Disturbs key (.revoke key.object key.grantee privilege)
  | dropped : Disturbs key (.dropObject key.object)

/-- The change makes a grant that carries nothing at a place that has none. -/
def GrantsNothing (catalog : Catalog) (key : GrantKey)
    (change : CatalogChange) : Prop :=
  ∃ grant, change = .grant grant ∧ grant.key = key ∧ grant.isEmpty = true ∧
    catalog.Live grant.object ∧ catalog.grantAt? key = none

/-- A change of something else leaves an empty grant where it is. -/
theorem idle_iff_of_foreign
    (same : after.grantAt? key = catalog.grantAt? key)
    (foreign : ∀ grant, change = .grant grant → catalog.Live grant.object →
      grant.key ≠ key)
    (undisturbed : catalog.Idle key → ¬Disturbs key change) :
    after.Idle key ↔
      catalog.GrantsNothing key change ∨
        catalog.Idle key ∧ ¬Disturbs key change := by
  have unmade : ¬catalog.GrantsNothing key change := by
    intro made
    obtain ⟨grant, made, filed, -, live, -⟩ := made
    exact foreign grant made live filed
  unfold Idle at undisturbed ⊢
  rw [same]
  constructor
  · intro idle
    exact .inr ⟨idle, undisturbed idle⟩
  · intro either
    exact (either.resolve_left unmade).1

/-- A grant leaves an empty one at its place if both it and what was there carry
nothing. -/
theorem idle_iff_of_granted {added : Grant}
    (live : catalog.Live added.object) (filed : added.key = key)
    (stored : after.grantAt? key =
      some ((catalog.grantAt? key).elim added (·.merge added))) :
    after.Idle key ↔
      catalog.GrantsNothing key (.grant added) ∨
        catalog.Idle key ∧ ¬Disturbs key (.grant added) := by
  have disturbs : Disturbs key (.grant added) ↔ added.isEmpty = false := by
    constructor
    · intro disturbed
      cases disturbed with
      | granted _ carrying => exact carrying
    · intro carrying
      exact .granted filed carrying
  have emptied : after.Idle key ↔
      ((catalog.grantAt? key).elim added (·.merge added)).isEmpty = true := by
    simp [Idle, stored]
  rw [emptied, disturbs, Bool.not_eq_false]
  cases own : catalog.grantAt? key with
  | none => simp [GrantsNothing, Idle, own, live, filed]
  | some own' =>
      simp [GrantsNothing, Idle, own, Grant.isEmpty_merge_iff]

/-- Nothing empty is left at a place where a change that is not a grant disturbs
what is stored. -/
theorem idle_iff_of_removed (removed : ¬after.Idle key)
    (disturbed : Disturbs key change)
    (foreign : ∀ grant, change ≠ .grant grant) :
    after.Idle key ↔
      catalog.GrantsNothing key change ∨
        catalog.Idle key ∧ ¬Disturbs key change := by
  have unmade : ¬catalog.GrantsNothing key change := by
    intro made
    obtain ⟨grant, made, -⟩ := made
    exact foreign grant made
  simp [removed, unmade, disturbed]

/-- A step leaves an empty grant at a place if it makes one there, or if there
was one and the step does not disturb it. -/
theorem Step.idle_iff (step : Step catalog change result after)
    (owned : ∀ {own}, catalog.grantAt? key = some own →
      catalog.Live key.object) :
    after.Idle key ↔
      catalog.GrantsNothing key change ∨
        catalog.Idle key ∧ ¬Disturbs key change := by
  have told : after.grantAt? key =
      catalog.findAfter change result (.grant key.object key.grantee) :=
    step.find? _
  cases step with
  | @granted added live =>
      by_cases filed : added.key = key
      · exact idle_iff_of_granted (live_iff_mem.mpr live) filed
          (told.trans (if_pos filed))
      · refine idle_iff_of_foreign (told.trans (if_neg filed)) ?_ ?_
        · intro grant same _
          cases same
          exact filed
        · intro _ disturbed
          cases disturbed with
          | granted also => exact filed also
  | @revoked object grantee privilege =>
      by_cases place : object = key.object ∧ grantee = key.grantee
      · obtain ⟨rfl, rfl⟩ := place
        refine idle_iff_of_removed ?_ .revoked (by simp)
        intro idle
        obtain ⟨grant, found, empty⟩ := idle
        have carrying := (Option.filter_eq_some_iff.mp
          ((told.trans (if_pos ⟨rfl, rfl⟩)).symm.trans found)).2
        simp [empty] at carrying
      · refine idle_iff_of_foreign (told.trans (if_neg place)) (by simp) ?_
        intro _ disturbed
        cases disturbed with
        | revoked => exact place ⟨rfl, rfl⟩
  | @objectDropped dropped live =>
      by_cases same : dropped = key.object
      · subst same
        refine idle_iff_of_removed ?_ .dropped (by simp)
        intro idle
        obtain ⟨grant, found, -⟩ := idle
        have gone := (told.trans (if_pos rfl)).symm.trans found
        contradiction
      · refine idle_iff_of_foreign (told.trans (if_neg same)) (by simp) ?_
        intro _ disturbed
        cases disturbed with
        | dropped => exact same rfl
  | refused refusal =>
      refine idle_iff_of_foreign rfl ?_ ?_
      · intro grant same live filed
        subst same
        cases refusal with
        | targetUnknown unknown => exact unknown (live_iff_mem.mp live)
      · intro idle disturbed
        obtain ⟨own, found, -⟩ := idle
        have live := live_iff_mem.mp (owned found)
        cases disturbed with
        | granted filed carrying =>
            cases refusal with
            | targetUnknown unknown =>
                subst filed
                exact unknown live
        | revoked => cases refusal
        | dropped =>
            cases refusal with
            | objectUnknown unknown => exact unknown live
  | schemaCreated | schemaDropped | objectCreated | aggregateCreated =>
      refine idle_iff_of_foreign rfl (by simp) ?_
      intro _ disturbed
      cases disturbed

/-! ## Histories -/

/-- An empty grant was made at a place that had none, and nothing has disturbed
it since. -/
def GrantedNothing (history : List CatalogChange) (key : GrantKey) : Prop :=
  Standing (fun earlier change => (empty.run earlier).GrantsNothing key change)
    (Disturbs key) history

theorem idle_run_iff (history : List CatalogChange) (key : GrantKey) :
    (empty.run history).Idle key ↔ GrantedNothing history key := by
  induction history using List.reverseRecOn with
  | nil =>
      refine iff_of_false ?_ not_standing_nil
      intro idle
      obtain ⟨grant, found, -⟩ := idle
      simp [grantAt?] at found
  | append_singleton history last induction =>
      have reachable : (empty.run history).Reachable := ⟨history, rfl⟩
      have step := step_apply (empty.run history) last
      have owned : ∀ {own}, (empty.run history).grantAt? key = some own →
          (empty.run history).Live key.object :=
        fun found => reachable.grantLive found
      unfold GrantedNothing
      rw [run_append_singleton, step.idle_iff owned, induction,
        standing_append_singleton_iff]
      rfl

/-- Where only grants that carry something were made no empty one stands. -/
theorem not_grantedNothing_of_forall {history : List CatalogChange}
    (carrying : ∀ grant, CatalogChange.grant grant ∈ history →
      grant.isEmpty = false) : ¬GrantedNothing history key := by
  intro granted
  obtain ⟨earlier, change, later, rfl, ⟨grant, rfl, -, empty, -⟩, -⟩ := granted
  simp [carrying grant (by simp)] at empty

/-! ## Counting -/

theorem coe_keys_grants (catalog : Catalog) :
    (↑catalog.grants.keys.toFinset : Set GrantKey) =
      {key | catalog.Holding key ∨ catalog.Idle key} := by
  ext key
  rw [Finset.mem_coe, List.mem_toFinset, Std.ExtTreeMap.mem_keys,
    Std.ExtTreeMap.mem_iff_isSome_getElem?, ← Option.ne_none_iff_isSome]
  exact grantAt?_ne_none_iff

theorem finite_holding_and_idle (catalog : Catalog) :
    {key | catalog.Holding key}.Finite ∧ {key | catalog.Idle key}.Finite := by
  have finite : {key | catalog.Holding key ∨ catalog.Idle key}.Finite := by
    rw [← catalog.coe_keys_grants]
    exact Finset.finite_toSet _
  exact ⟨finite.subset fun key => .inl, finite.subset fun key => .inr⟩

/-- The grants are counted by what their places hold. -/
theorem grantCount_eq_ncard_add (catalog : Catalog) :
    catalog.grantCount =
      {key | catalog.Holding key}.ncard + {key | catalog.Idle key}.ncard := by
  obtain ⟨holding, idle⟩ := catalog.finite_holding_and_idle
  have apart : Disjoint {key | catalog.Holding key} {key | catalog.Idle key} :=
    Set.disjoint_left.mpr fun key held idle =>
      not_holding_and_idle ⟨held, idle⟩
  calc
    catalog.grantCount = catalog.grants.keys.length :=
      Std.ExtTreeMap.length_keys.symm
    _ = catalog.grants.keys.toFinset.card :=
      (List.toFinset_card_of_nodup Std.ExtTreeMap.nodup_keys).symm
    _ = {key | catalog.Holding key ∨ catalog.Idle key}.ncard := by
      rw [← catalog.coe_keys_grants, Set.ncard_coe_finset]
    _ = _ := Set.ncard_union_eq apart holding idle

end Catalog

open Catalog in
/-- The places that hold a grant without privileges are those where such a grant
was made first and not disturbed since.  The grants stored are those that carry
a privilege together with these.  A catalog stores no others exactly when no
empty grant stands, which is so as long as none is made. -/
theorem empty_grant_stored_iff (history : List CatalogChange) :
    let catalog := empty.run history
    (∀ key, catalog.Idle key ↔ GrantedNothing history key) ∧
    (∀ key, catalog.grantAt? key = none ↔
      ¬catalog.Holding key ∧ ¬GrantedNothing history key) ∧
    catalog.grantCount =
      {key | catalog.Holding key}.ncard +
        {key | GrantedNothing history key}.ncard ∧
    [∀ key, ¬GrantedNothing history key,
      ∀ key grant, catalog.grantAt? key = some grant →
        ∃ privilege, grant.holds privilege = true,
      catalog.grantCount = {key | catalog.Holding key}.ncard,
      ∀ key, ¬catalog.Holding key → catalog.grantAt? key = none].TFAE ∧
    ((∀ grant, .grant grant ∈ history → grant.isEmpty = false) →
      ∀ key, ¬GrantedNothing history key) := by
  intro catalog
  have idle := idle_run_iff history
  have absent : ∀ key, catalog.grantAt? key = none ↔
      ¬catalog.Holding key ∧ ¬GrantedNothing history key := by
    intro key
    rw [← idle, ← not_or, ← grantAt?_ne_none_iff, not_ne_iff]
  have counted := catalog.grantCount_eq_ncard_add
  have finite := catalog.finite_holding_and_idle.2
  simp only [show ∀ key, catalog.Idle key ↔ _ from idle] at counted finite
  refine ⟨idle, absent, counted, ?_, fun carrying key =>
    not_grantedNothing_of_forall carrying⟩
  tfae_have 1 → 4 := by
    intro none key unheld
    exact (absent key).mpr ⟨unheld, none key⟩
  tfae_have 4 → 2 := by
    intro unstored key grant found
    by_contra unheld
    have gone := unstored key fun ⟨own, ownFound, holds⟩ => by
      cases found.symm.trans ownFound
      exact unheld holds
    rw [found] at gone
    contradiction
  tfae_have 2 → 1 := by
    intro carrying key granted
    obtain ⟨grant, found, empty⟩ := (idle key).mpr granted
    exact Grant.isEmpty_iff_forall_holds.mp empty (carrying key grant found)
  tfae_have 1 ↔ 3 := by
    rw [counted, Nat.add_eq_left, Set.ncard_eq_zero finite,
      Set.eq_empty_iff_forall_notMem]
    rfl
  tfae_finish

/-- A clerk is granted nothing on a table. -/
def nothingGranted : List CatalogChange :=
  [.createSchema "APP" "dba", .createObject ⟨1⟩ "ORDERS" .table,
    .grant (Grant.ofPrivileges "clerk" ⟨2⟩ [] "dba")]

theorem clerk_holds_empty_grant :
    let catalog := Catalog.empty.run nothingGranted
    let grant := Grant.ofPrivileges "clerk" ⟨2⟩ [] "dba"
    catalog.find? (.grant ⟨2⟩ "clerk") = some grant ∧
      (∀ privilege, grant.holds privilege = false) ∧
      catalog.grantCount = 1 ∧
      {key | catalog.Holding key}.ncard = 0 := by
  intro catalog grant
  have found : catalog.find? (.grant ⟨2⟩ "clerk") = some grant := by
    rfl
  have unheld : ∀ privilege, grant.holds privilege = false := by
    simp [grant, Grant.holds, Grant.scope?_ofPrivileges]
  have stored : catalog.grantCount = 1 := by
    rfl
  have idle : catalog.Idle ⟨⟨2⟩, "clerk"⟩ :=
    ⟨grant, found, Grant.isEmpty_iff_forall_holds.mpr (by simp [unheld])⟩
  have positive : 0 < {key | catalog.Idle key}.ncard :=
    (Set.ncard_pos catalog.finite_holding_and_idle.2).mpr ⟨_, idle⟩
  have counted := catalog.grantCount_eq_ncard_add
  exact ⟨found, unheld, stored, by omega⟩

end SqlAdmission
