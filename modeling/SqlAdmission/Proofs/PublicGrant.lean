import SqlAdmission.Proofs.GrantEffect

/-!
# Grants to everyone

To a user of a policy that honours the grants to everyone, such a grant conveys
what the same grant made to the user would, although it joins another stored
grant.  Under a strict policy, whatever everyone is granted or loses changes
nothing for anybody else.
-/

namespace SqlAdmission

theorem Statement.heeds_publicGrantee_iff {statement : Statement}
    (notEveryone : statement.user ≠ publicGrantee) :
    statement.Heeds publicGrantee ↔ statement.policy.honorsPublic = true := by
  simp [Heeds, notEveryone.symm]

namespace Catalog

variable {catalog : Catalog} {statement : Statement}

section Revoked

variable {target : ObjectId} {holder : String} {gone : Privilege}

theorem find?_revoke {wanted : Lookup} (lasting : wanted.kind ≠ .grant) :
    (catalog.revoke target holder gone).find? wanted =
      catalog.find? wanted := by
  cases wanted with
  | grant object grantee => exact (lasting rfl).elim
  | _ => rfl

theorem scope?_revoke_of_ne {grantee : String} (other : holder ≠ grantee)
    (object : ObjectId) (privilege : Privilege) :
    (catalog.revoke target holder gone).scope? object grantee privilege =
      catalog.scope? object grantee privilege := by
  have apart : ¬(target = object ∧ holder = grantee) :=
    fun same => other same.2
  have kept : (catalog.revoke target holder gone).find?
      (.grant object grantee) = catalog.find? (.grant object grantee) := by
    rw [Step.revoked.find?]
    exact if_neg apart
  rw [scope?, kept, scope?]

end Revoked

/-! ## Changes that a statement does not notice -/

theorem agreesFor_grant_of_not_heeds {added : Grant}
    (unheeded : ¬statement.Heeds added.grantee) :
    AgreesFor statement (catalog.grant added).2 catalog where
  rows _ lasting := find?_grant lasting added
  conveyed object privilege extent joins := by
    rw [conveys_grant_iff joins]
    apply or_iff_left
    intro contributes
    obtain ⟨-, -, heeded, -⟩ := contributes
    exact unheeded heeded

theorem agreesFor_revoke_of_not_heeds {holder : String}
    (unheeded : ¬statement.Heeds holder) (target : ObjectId)
    (gone : Privilege) :
    AgreesFor statement (catalog.revoke target holder gone) catalog where
  rows _ lasting := find?_revoke lasting
  conveyed object privilege extent _ := by
    apply exists_congr
    intro grantee
    apply and_congr_right
    intro heeded
    have other : holder ≠ grantee := by
      rintro rfl
      exact unheeded heeded
    rw [scope?_revoke_of_ne other]

/-- To whom of those who count a grant is made does not matter, whatever else is
stored for either. -/
theorem agreesFor_grant_of_heeds {left right : String}
    (leftHeeded : statement.Heeds left) (rightHeeded : statement.Heeds right)
    (added : Grant) :
    AgreesFor statement (catalog.grant { added with grantee := left }).2
      (catalog.grant { added with grantee := right }).2 where
  rows wanted lasting := by
    rw [find?_grant lasting, find?_grant lasting]
  conveyed object privilege extent joins := by
    have alike : catalog.Contributes statement object privilege extent
          { added with grantee := left } ↔
        catalog.Contributes statement object privilege extent
          { added with grantee := right } := by
      simp only [Contributes, leftHeeded, rightHeeded, Grant.scope?]
    rw [conveys_grant_iff joins, conveys_grant_iff joins, alike]

end Catalog

/-- Where the grants to everyone are honoured, a grant to everyone is to each
user what a grant to that user is, down to the columns that a denial names.
Where they are not, neither a grant to everyone nor its revocation changes a
decision on anyone else. -/
theorem grant_to_everyone_counts_for_each {catalog : Catalog}
    (reachable : catalog.Reachable) {statement : Statement}
    (notEveryone : statement.user ≠ publicGrantee) (added : Grant)
    (artifacts : ArtifactStore) (requirement : Requirement)
    (forGrant : Bool) :
    let ruled (after : Catalog) :=
      after.ruling artifacts statement requirement forGrant
    let toEveryone := (catalog.grant { added with grantee := publicGrantee }).2
    let toUser := (catalog.grant { added with grantee := statement.user }).2
    (statement.policy.honorsPublic = true → ruled toEveryone = ruled toUser) ∧
    (statement.policy.honorsPublic = false →
      ruled toEveryone = ruled catalog ∧
      ∀ object privilege,
        ruled (catalog.revoke object publicGrantee privilege) =
          ruled catalog) := by
  intro ruled toEveryone toUser
  have filed := reachable.filed
  have grantedFiled : ∀ grant, (catalog.grant grant).2.Filed :=
    fun grant => (reachable.apply (.grant grant)).filed
  have heeds := Statement.heeds_publicGrantee_iff notEveryone
  constructor
  · intro honored
    have everyones : statement.Heeds publicGrantee := heeds.mpr honored
    have own : statement.Heeds statement.user := .inl rfl
    apply (Catalog.agreesFor_grant_of_heeds everyones own added).ruling_eq
    · exact grantedFiled _
    · exact grantedFiled _
  · intro strict
    have unheeded : ¬statement.Heeds publicGrantee := by
      rw [heeds, strict]
      exact Bool.false_ne_true
    constructor
    · exact (Catalog.agreesFor_grant_of_not_heeds unheeded).ruling_eq
        (grantedFiled _) filed artifacts requirement forGrant
    · intro object privilege
      have revokedFiled : (catalog.revoke object publicGrantee privilege).Filed :=
        (reachable.apply (.revoke object publicGrantee privilege)).filed
      exact (Catalog.agreesFor_revoke_of_not_heeds unheeded object
        privilege).ruling_eq revokedFiled filed artifacts requirement forGrant

/-- A right to update `paid` is the same to `clerk` whether it is everyone's or
not, and is nothing to a strict policy if it is everyone's. -/
theorem clerk_gains_from_everyone :
    let catalog := Catalog.empty.run ordersShared
    let paid (grantee : String) : Grant :=
      (Grant.ofPrivileges grantee ⟨2⟩ [.update] "dba").restrictTo ["paid"]
    let lenient : Statement := { txn := ⟨1⟩, user := "clerk" }
    let strict : Statement := { lenient with policy := .strict }
    let updates : Requirement := .access ⟨2⟩ (.update ["note", "paid", "total"])
    let lacks (columns : List String) : Except Rejection Unit :=
      .error (.permissionDenied {
        user := "clerk"
        privilege := "UPDATE"
        objectType := "TABLE"
        schema := "APP"
        name := some "ORDERS"
        columns := some columns
        forGrant := true })
    let ruled (statement : Statement) (after : Catalog) :=
      after.ruling {} statement updates true
    catalog.Reachable ∧ lenient.user ≠ publicGrantee ∧
      ruled lenient catalog = lacks ["note", "paid"] ∧
      ruled lenient (catalog.grant (paid publicGrantee)).2 = lacks ["note"] ∧
      ruled lenient (catalog.grant (paid "clerk")).2 = lacks ["note"] ∧
      ruled strict (catalog.grant (paid publicGrantee)).2 =
        lacks ["note", "paid", "total"] ∧
      ruled strict (catalog.revoke ⟨2⟩ publicGrantee .update) =
        lacks ["note", "paid", "total"] := by
  intro catalog paid lenient strict updates lacks ruled
  have reachable : catalog.Reachable := ⟨ordersShared, rfl⟩
  have notEveryone : lenient.user ≠ publicGrantee := by decide
  obtain ⟨shared, -⟩ := grant_to_everyone_counts_for_each reachable notEveryone
    (paid "clerk") {} updates true
  have strictNotEveryone : strict.user ≠ publicGrantee := notEveryone
  obtain ⟨-, unnoticed⟩ := grant_to_everyone_counts_for_each reachable
    strictNotEveryone (paid "clerk") {} updates true
  obtain ⟨grantUnnoticed, revocationUnnoticed⟩ := unnoticed rfl
  have own : ruled lenient (catalog.grant (paid "clerk")).2 =
      lacks ["note"] := by
    decide
  have before : ruled strict catalog = lacks ["note", "paid", "total"] := by
    decide
  exact ⟨reachable, notEveryone, by decide, (shared rfl).trans own, own,
    grantUnnoticed.trans before, (revocationUnnoticed ⟨2⟩ .update).trans before⟩

end SqlAdmission
