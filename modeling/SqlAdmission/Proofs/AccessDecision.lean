import SqlAdmission.Proofs.Calls
import SqlAdmission.Proofs.Verdict

/-!
# Decisions on accesses

What the check of an access comes to is told by the rows it reads.  A target
that resolves to no row of a fitting kind is dangling for everyone.  The owner
of the database is then admitted, and so is whoever the grants that count cover.
Everyone else is told which of the columns are covered by none, or that the
schema of the target does not resolve.
-/

namespace SqlAdmission

/-- The answers of a dictionary that holds some rows and reads without failure.
There is nothing to load. -/
def Rows.answer (rows : Rows) : (question : Question) → question.Answer
  | .lookup _ wanted => .ok (rows wanted)
  | .load name => .error (.classNotFound name)
  | .arguments handle _ => .error (.classNotFound handle.name)

theorem Rows.answer_lookup (rows : Rows) (txn : TxnId) (wanted : Lookup) :
    rows.answer (.lookup txn wanted) = .ok (rows wanted) := rfl

namespace Decision

variable {σ α : Type}

/-- Every look-up of a decision was read, and gave the row that is told.  What
was not looked up may change. -/
def ReadsRows (decision : Decision α) (respond : Responder σ) (state : σ)
    (rows : Rows) : Prop :=
  ∀ call ∈ Entry.calls (decision.play respond state).transcript,
    call.answer = rows.answer call.question

theorem ReadsRows.value_play {decision : Decision α} {respond : Responder σ}
    {state : σ} {rows : Rows} (reads : decision.ReadsRows respond state rows) :
    (decision.play respond state).value = decision.settle rows.answer :=
  Inquiry.value_run_of_calls reads

theorem readsRows_ofAnswers (decision : Decision α) (rows : Rows) :
    decision.ReadsRows (.ofAnswers rows.answer) () rows :=
  fun _ => Inquiry.answer_of_mem_calls_ofAnswers rows.answer decision.run

end Decision

namespace Statement

variable {statement : Statement} {rows : Rows} {object : ObjectId}
  {mode : Access}

/-- A grant that counts for the statement, and is not filed under another
object, has a property. -/
def HasGrant (statement : Statement) (rows : Rows) (object : ObjectId)
    (property : Grant → Prop) : Prop :=
  ∃ grantee grant, statement.Heeds grantee ∧
    rows (.grant object grantee) = some grant ∧ grant.object = object ∧
      property grant

theorem hasGrant_iff {property : Grant → Prop} :
    statement.HasGrant rows object property ↔
      ∃ grant ∈ statement.applicable rows object, property grant := by
  simp only [mem_applicable_iff]
  constructor
  · intro held
    obtain ⟨grantee, grant, heeded, found, filed, holds⟩ := held
    exact ⟨grant, ⟨filed, grantee, heeded, found⟩, holds⟩
  · intro counted
    obtain ⟨grant, ⟨filed, grantee, heeded, found⟩, holds⟩ := counted
    exact ⟨grantee, grant, heeded, found, filed, holds⟩

instance (property : Grant → Prop) [DecidablePred property] :
    Decidable (statement.HasGrant rows object property) :=
  decidable_of_iff _ hasGrant_iff.symm

/-- The user owns the database, or the grants that count cover the access: the
whole object by one of them, columns each by one of them. -/
def Entitled (statement : Statement) (rows : Rows) (object : ObjectId)
    (mode : Access) : Prop :=
  statement.byOwner = true ∨
    match mode.columns with
    | none =>
      statement.HasGrant rows object fun grant =>
        grant.scope? mode.privilege = some .everyColumn
    | some columns =>
      ∀ column ∈ columns, statement.HasGrant rows object fun grant =>
        grant.reaches mode.privilege column = true

theorem entitled_iff :
    statement.Entitled rows object mode ↔
      statement.byOwner = true ∨
        mode.coverage (statement.applicable rows object) = .complete := by
  unfold Entitled
  rw [Access.coverage_eq_complete_iff]
  cases mode.columns with
  | none => simp only [hasGrant_iff]
  | some columns => simp only [hasGrant_iff]

instance : Decidable (statement.Entitled rows object mode) :=
  decidable_of_iff _ entitled_iff.symm

/-- Those of some columns that no grant covers which counts, as they are
listed. -/
def ungranted (statement : Statement) (rows : Rows) (object : ObjectId)
    (privilege : Privilege) (columns : List String) : List String :=
  columns.filter fun column =>
    ¬statement.HasGrant rows object fun grant =>
      grant.reaches privilege column = true

theorem uncoveredColumns_applicable (privilege : Privilege)
    (columns : List String) :
    uncoveredColumns (statement.applicable rows object) privilege columns =
      statement.ungranted rows object privilege columns := by
  unfold uncoveredColumns ungranted
  refine List.filter_congr fun column _ => ?_
  rw [Bool.eq_iff_iff]
  simp [hasGrant_iff]

theorem settle_check_access_of_not_entitled
    (unentitled : ¬statement.Entitled rows object mode) {row : ObjectRow}
    (found : rows (.object object) = some row)
    (accepted : mode.accepts row.kind = true) (forGrant : Bool) :
    (statement.check (.access object mode) forGrant).settle rows.answer =
      .error (statement.refusal rows row mode
        (mode.columns.map (statement.ungranted rows object mode.privilege))
        forGrant) := by
  rw [entitled_iff, not_or] at unentitled
  obtain ⟨notOwner, uncovered⟩ := unentitled
  rw [settle_check_access_of_fit (rows.answer_lookup _) found accepted,
    if_neg notOwner]
  cases lacking : mode.coverage (statement.applicable rows object) with
  | complete => exact (uncovered lacking).elim
  | lacking missing =>
      have told := (Access.coverage_eq_lacking_iff.mp lacking).2
      simp only [told, funext (uncoveredColumns_applicable mode.privilege)]

theorem refusal_eq_dangling_schema_iff {row : ObjectRow}
    {missing : Option (List String)} {forGrant : Bool} :
    statement.refusal rows row mode missing forGrant =
        .danglingReference "schema" row.schema.val ↔
      rows (.schema row.schema) = none := by
  unfold refusal
  cases rows (.schema row.schema) with
  | none => simp
  | some home => simp

theorem refusal_ne_dangling_target {row : ObjectRow}
    {missing : Option (List String)} {forGrant : Bool} :
    statement.refusal rows row mode missing forGrant ≠
      .danglingReference mode.targetKind object.val := by
  have notSchema : "schema" ≠ mode.targetKind := by
    cases mode <;> simp [Access.targetKind]
  unfold refusal
  cases rows (.schema row.schema) with
  | none => simp [notSchema]
  | some home => simp

/-- Only a target that does not resolve to a fitting row is reported as
dangling. -/
theorem settle_check_access_eq_dangling_iff (forGrant : Bool) :
    (statement.check (.access object mode) forGrant).settle rows.answer =
        .error (.danglingReference mode.targetKind object.val) ↔
      ¬∃ row, rows (.object object) = some row ∧
        mode.accepts row.kind = true := by
  constructor
  · intro dangling fit
    obtain ⟨row, found, accepted⟩ := fit
    by_cases entitled : statement.Entitled rows object mode
    · have admitted := (settle_check_access_iff (rows.answer_lookup _) object
        mode forGrant).mpr ⟨row, found, accepted, entitled_iff.mp entitled⟩
      rw [admitted] at dangling
      cases dangling
    · rw [settle_check_access_of_not_entitled entitled found accepted]
        at dangling
      exact refusal_ne_dangling_target (Except.error.inj dangling)
  · intro unfit
    exact settle_check_access_of_unfit (rows.answer_lookup _) unfit forGrant

end Statement

/-- The check of an access, decided by the rows it reads in this order: the
target must resolve to a row of a fitting kind, also for the owner of the
database; the user must be entitled; the schema of the target must resolve; and
else the columns that no grant covers are denied, in the order in which they
were asked for. -/
theorem access_decided_by_rows {σ : Type} {respond : Responder σ} {state : σ}
    {statement : Statement} {object : ObjectId} {mode : Access}
    {forGrant : Bool} {rows : Rows}
    (reads : (statement.check (.access object mode) forGrant).ReadsRows respond
      state rows) :
    let result := ((statement.check (.access object mode) forGrant).play
      respond state).value
    let Fits (row : ObjectRow) :=
      rows (.object object) = some row ∧ mode.accepts row.kind = true
    (result = .error (.danglingReference mode.targetKind object.val) ↔
      ¬∃ row, Fits row) ∧
    ∀ row, Fits row →
      (result = .ok () ↔ statement.Entitled rows object mode) ∧
      (¬statement.Entitled rows object mode →
        (result = .error (.danglingReference "schema" row.schema.val) ↔
          rows (.schema row.schema) = none) ∧
        ∀ home, rows (.schema row.schema) = some home →
          result = .error (.permissionDenied {
            user := statement.user
            privilege := mode.privilege.name
            objectType := row.kind.label
            schema := home.name
            name := some row.name
            columns := mode.columns.map
              (statement.ungranted rows object mode.privilege)
            forGrant })) := by
  intro result Fits
  have settled : result =
      (statement.check (.access object mode) forGrant).settle rows.answer :=
    reads.value_play
  rw [settled]
  refine ⟨Statement.settle_check_access_eq_dangling_iff forGrant, ?_⟩
  intro row fit
  obtain ⟨found, accepted⟩ := fit
  constructor
  · rw [Statement.settle_check_access_iff (rows.answer_lookup _),
      Statement.entitled_iff]
    constructor
    · intro admitted
      obtain ⟨-, -, -, entitled⟩ := admitted
      exact entitled
    · intro entitled
      exact ⟨row, found, accepted, entitled⟩
  · intro unentitled
    rw [Statement.settle_check_access_of_not_entitled unentitled found accepted]
    constructor
    · rw [Except.error.injEq, Statement.refusal_eq_dangling_schema_iff]
    · intro home housed
      simp only [Statement.refusal, housed]
      rfl

/-- A table of which `clerk` may update one column.  The grant found for everyone
else was made on another object. -/
def ordersMisfiled : Rows
  | .object id =>
    if id = ⟨2⟩ then some ⟨⟨2⟩, ⟨1⟩, "ORDERS", .table⟩ else none
  | .schema id => if id = ⟨1⟩ then some ⟨⟨1⟩, "APP", "dba"⟩ else none
  | .grant target grantee =>
    if grantee = "clerk" then
      some ((Grant.ofPrivileges "clerk" target [.update] "dba").restrictTo ["id"])
    else some (Grant.ofPrivileges grantee ⟨3⟩ [.update] "dba")
  | .registration _ => none

theorem clerk_lacks_total_twice :
    let statement : Statement := { txn := ⟨1⟩, user := "clerk" }
    let check := statement.check
      (.access ⟨2⟩ (.update ["total", "id", "total"])) false
    let dictionary : Responder Unit := .ofAnswers ordersMisfiled.answer
    check.ReadsRows dictionary () ordersMisfiled ∧
      (check.play dictionary ()).value =
        .error (.permissionDenied {
          user := "clerk"
          privilege := "UPDATE"
          objectType := "TABLE"
          schema := "APP"
          name := some "ORDERS"
          columns := some ["total", "total"]
          forGrant := false }) := by
  intro statement check dictionary
  have reads : check.ReadsRows dictionary () ordersMisfiled :=
    Decision.readsRows_ofAnswers check ordersMisfiled
  have unentitled : ¬statement.Entitled ordersMisfiled ⟨2⟩
      (.update ["total", "id", "total"]) := by
    decide
  obtain ⟨-, decided⟩ := access_decided_by_rows reads
  obtain ⟨-, denied⟩ := decided ⟨⟨2⟩, ⟨1⟩, "ORDERS", .table⟩ ⟨rfl, rfl⟩
  exact ⟨reads, (denied unentitled).2 ⟨⟨1⟩, "APP", "dba"⟩ rfl⟩

end SqlAdmission
