import SqlAdmission.Grant.Lemmas
import SqlAdmission.Proofs.CatalogLookup
import SqlAdmission.Proofs.Verdict

/-!
# Filing of rows

Every row of a reachable catalog is filed under its own key, however many
changes led to it.  Merging and revoking keep the place of a grant, and a
created row carries the identifier it is filed under.
-/

namespace SqlAdmission

namespace Catalog

variable {catalog after : Catalog} {change : CatalogChange}
  {result : Except CatalogError (Option UInt64)}

/-- Every row is filed under its own key. -/
def Filed (catalog : Catalog) : Prop :=
  ∀ (wanted : Lookup) (row : wanted.Row),
    catalog.find? wanted = some row → wanted.Filed row

theorem filed_empty : empty.Filed := by
  intro wanted row found
  simp at found

theorem Filed.step_grant (filed : catalog.Filed)
    (step : Step catalog change result after)
    {object : ObjectId} {grantee : String} {grant : Grant}
    (found : after.find? (.grant object grantee) = some grant) :
    grant.key = ⟨object, grantee⟩ := by
  have old : ∀ {own : Grant}, catalog.find? (.grant object grantee) = some own →
      own.key = ⟨object, grantee⟩ := by
    intro own ownFound
    obtain ⟨sameObject, sameGrantee⟩ := filed (.grant object grantee) own ownFound
    simp [Grant.key, sameObject, sameGrantee]
  rw [step.find?] at found
  simp only [findAfter] at found
  split at found
  · split at found
    · rename_i same
      cases own : catalog.find? (.grant object grantee) with
      | none =>
          simp only [own, Option.elim_none, Option.some.injEq] at found
          rw [← found]
          exact same
      | some stored =>
          simp only [own, Option.elim_some, Option.some.injEq] at found
          rw [← found, Grant.key_merge]
          exact old own
    · exact old found
  · split at found
    · obtain ⟨revoked, -⟩ := Option.filter_eq_some_iff.mp found
      obtain ⟨stored, own, rfl⟩ := Option.map_eq_some_iff.mp revoked
      rw [Grant.key_revoke]
      exact old own
    · exact old found
  · split at found
    · contradiction
    · exact old found
  · exact old found

theorem Filed.step (filed : catalog.Filed)
    (step : Step catalog change result after) : after.Filed := by
  intro wanted row found
  cases wanted with
  | grant object grantee =>
      have key := filed.step_grant step found
      exact ⟨congrArg GrantKey.object key, congrArg GrantKey.grantee key⟩
  | object id =>
      rw [step.find?] at found
      simp only [findAfter] at found
      split at found <;> try split at found
      case h_1.isTrue | h_2.isTrue =>
        cases found
        rfl
      case h_3.isTrue => contradiction
      all_goals exact filed (.object id) row found
  | schema id =>
      rw [step.find?] at found
      simp only [findAfter] at found
      split at found <;> try split at found
      case h_1.isTrue =>
        cases found
        rfl
      case h_2.isTrue => contradiction
      all_goals exact filed (.schema id) row found
  | registration id =>
      rw [step.find?] at found
      simp only [findAfter] at found
      split at found
      · split at found
        · obtain ⟨home, -, rfl⟩ := Option.map_eq_some_iff.mp found
          rfl
        · exact filed (.registration id) row found
      · split at found
        · contradiction
        · exact filed (.registration id) row found
      · exact filed (.registration id) row found

/-- No grant that is filed where it belongs is left out. -/
theorem Filed.mem_applicable_iff (filed : catalog.Filed)
    {statement : Statement} {object : ObjectId} {grant : Grant} :
    grant ∈ statement.applicable catalog.find? object ↔
      ∃ grantee, statement.Heeds grantee ∧
        catalog.find? (.grant object grantee) = some grant := by
  rw [Statement.mem_applicable_iff]
  constructor
  · intro counted
    exact counted.2
  · intro stored
    obtain ⟨grantee, heeded, found⟩ := stored
    exact ⟨(filed (.grant object grantee) grant found).1, grantee, heeded, found⟩

theorem Reachable.filed (reachable : catalog.Reachable) : catalog.Filed :=
  reachable.induction filed_empty fun filed step => filed.step step

end Catalog

end SqlAdmission
