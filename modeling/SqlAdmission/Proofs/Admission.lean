import SqlAdmission.Proofs.CatalogFiling
import SqlAdmission.Proofs.GrantJoin

/-!
# Admission takes a grant

A user who does not own the database is admitted to an access only by a stored
grant that carries its privilege.  The one exception is an access that lists no
column at all: nothing is missing from an empty list, so every live target of a
fitting kind passes, whoever asks.
-/

namespace SqlAdmission

namespace Access

variable {mode : Access} {grants : List Grant}

theorem coverage_of_no_column (unlisted : mode.columns = some []) :
    mode.coverage grants = .complete := by
  rw [coverage_eq_complete_iff, unlisted]
  simp

theorem holds_of_coverage (listed : mode.columns ≠ some [])
    (covered : mode.coverage grants = .complete) :
    ∃ grant ∈ grants, grant.holds mode.privilege = true := by
  rw [coverage_eq_complete_iff] at covered
  cases columns : mode.columns with
  | none =>
      rw [columns] at covered
      obtain ⟨grant, member, whole⟩ := covered
      exact ⟨grant, member, by simp [Grant.holds, whole]⟩
  | some touched =>
      rw [columns] at covered
      cases touched with
      | nil => exact (listed columns).elim
      | cons first rest =>
          obtain ⟨grant, member, reached⟩ := covered first List.mem_cons_self
          exact ⟨grant, member, Grant.holds_of_reaches reached⟩

end Access

/-- A stored grant that counts for the statement carries a privilege on an
object. -/
def Statement.Backed (statement : Statement) (catalog : Catalog)
    (object : ObjectId) (privilege : Privilege) : Prop :=
  ∃ grantee grant, statement.Heeds grantee ∧
    catalog.find? (.grant object grantee) = some grant ∧
      grant.object = object ∧ grant.grantee = grantee ∧
        grant.holds privilege = true

section Reached

variable {stores : Stores} {statement : Statement} {object : ObjectId}
  {mode : Access}

theorem backed_of_applicable (filed : stores.catalog.Filed)
    {privilege : Privilege} {grant : Grant}
    (counted : grant ∈ statement.applicable stores.catalog.find? object)
    (carried : grant.holds privilege = true) :
    statement.Backed stores.catalog object privilege := by
  obtain ⟨grantee, heeded, found⟩ := filed.mem_applicable_iff.mp counted
  have place := filed (.grant object grantee) grant found
  exact ⟨grantee, grant, heeded, found, place.1, place.2, carried⟩

/-- Admission is backed by a stored grant, except that an access which lists no
column is admitted to every target of a fitting kind, backed or not. -/
theorem admitted_backed_iff (reachable : stores.catalog.Reachable)
    (notOwner : statement.byOwner = false) (object : ObjectId) (mode : Access)
    (forGrant : Bool) :
    (stores.settle (statement.check (.access object mode) forGrant) = .ok () →
        statement.Backed stores.catalog object mode.privilege) ↔
      (mode.columns = some [] →
        (∃ row, stores.catalog.find? (.object object) = some row ∧
          mode.accepts row.kind = true) →
          statement.Backed stores.catalog object mode.privilege) := by
  constructor
  · intro backed unlisted target
    obtain ⟨row, found, accepted⟩ := target
    apply backed
    rw [Stores.settle_check_access_iff]
    exact ⟨row, found, accepted, .inr (Access.coverage_of_no_column unlisted)⟩
  · intro unlisted admitted
    obtain ⟨row, found, accepted, owner | covered⟩ :=
      Stores.settle_check_access_iff.mp admitted
    · simp [notOwner] at owner
    · by_cases empty : mode.columns = some []
      · exact unlisted empty ⟨row, found, accepted⟩
      · obtain ⟨grant, counted, carried⟩ := Access.holds_of_coverage empty covered
        exact backed_of_applicable reachable.filed counted carried

end Reached

/-- A table `ORDERS`, of which `clerk` may read the column `id`. -/
def ordersReadable : List CatalogChange :=
  [.createSchema "APP" "dba", .createObject ⟨1⟩ "ORDERS" .table,
    .grant ((Grant.ofPrivileges "clerk" ⟨2⟩ [.select] "dba").restrictTo ["id"])]

theorem clerk_reads_id_backed :
    let stores : Stores := { catalog := Catalog.empty.run ordersReadable }
    let statement : Statement := { txn := ⟨1⟩, user := "clerk" }
    stores.catalog.Reachable ∧ statement.byOwner = false ∧
      stores.settle
        (statement.check (.access ⟨2⟩ (.select (some ["id"]))) false) = .ok () ∧
      statement.Backed stores.catalog ⟨2⟩ .select := by
  intro stores statement
  have reachable : stores.catalog.Reachable := ⟨ordersReadable, rfl⟩
  have notOwner : statement.byOwner = false := rfl
  have admitted : stores.settle
      (statement.check (.access ⟨2⟩ (.select (some ["id"]))) false) =
        .ok () := by
    rw [Stores.settle_check_access_iff]
    exact ⟨⟨⟨2⟩, ⟨1⟩, "ORDERS", .table⟩, rfl, rfl, .inr (by decide)⟩
  have backed :=
    (admitted_backed_iff reachable notOwner ⟨2⟩ (.select (some ["id"]))
      false).mpr (by simp [Access.columns])
  exact ⟨reachable, notOwner, admitted, backed admitted⟩

/-- A stranger may update no column of a table without any grant. -/
theorem stranger_updates_no_column_unbacked :
    let changes : List CatalogChange :=
      [.createSchema "APP" "dba", .createObject ⟨1⟩ "ORDERS" .table]
    let stores : Stores := { catalog := Catalog.empty.run changes }
    let statement : Statement := { txn := ⟨1⟩, user := "mallory" }
    stores.catalog.Reachable ∧ statement.byOwner = false ∧
      stores.settle (statement.check (.access ⟨2⟩ (.update [])) false) =
        .ok () ∧
      ¬statement.Backed stores.catalog ⟨2⟩ .update := by
  intro changes stores statement
  refine ⟨⟨changes, rfl⟩, rfl, rfl, ?_⟩
  intro backed
  obtain ⟨grantee, grant, -, found, -⟩ := backed
  have ungranted : stores.catalog.find? (.grant ⟨2⟩ grantee) = none := rfl
  rw [ungranted] at found
  contradiction

end SqlAdmission
