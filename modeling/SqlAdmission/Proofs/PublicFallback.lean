import SqlAdmission.Proofs.Verdict

/-!
# Honouring the grants to everyone

A policy that honours the grants to everyone counts more grants than a strict
one, so it admits no less, as long as it can read them.  It reads them also for
a user whose own grant already admits, and a read that fails rejects.
-/

namespace SqlAdmission

namespace Statement

variable {statement : Statement}

/-- The statement under the same policy, but for whether that honours the grants
to everyone. -/
def heeding (statement : Statement) (honorsPublic : Bool) : Statement :=
  { statement with policy := { statement.policy with honorsPublic } }

theorem consultsPublic_heeding :
    (statement.heeding true).consultsPublic = true ↔
      statement.user ≠ publicGrantee :=
  decide_eq_true_iff

/-- A requirement has the grant to everyone read, and that read fails. -/
def PublicUnread (statement : Statement)
    (answers : (question : Question) → question.Answer) :
    Requirement → CatalogError → Prop
  | .access object _, error =>
    statement.byOwner = false ∧ statement.user ≠ publicGrantee ∧
      answers (.lookup statement.txn (.grant object publicGrantee)) =
        .error error
  | .ownership _, _ => False

/-- The target of an access has a fitting kind, and the user needs no grant but
an own one. -/
def AdmitsAlone (statement : Statement)
    (answers : (question : Question) → question.Answer) (object : ObjectId)
    (mode : Access) : Prop :=
  ∃ row, answers (.lookup statement.txn (.object object)) = .ok (some row) ∧
    mode.accepts row.kind = true ∧
      (statement.byOwner = true ∨
        ∃ own,
          answers (.lookup statement.txn (.grant object statement.user)) =
            .ok own ∧
          mode.coverage (own.toList.filter (·.object = object)) = .complete)

section Answers

variable {answers : (question : Question) → question.Answer}
  {object : ObjectId} {mode : Access} {forGrant : Bool}

theorem admitsAlone_of_settle_check (alone : statement.consultsPublic = false)
    (admitted : (statement.check (.access object mode) forGrant).settle answers =
      .ok ()) :
    statement.AdmitsAlone answers object mode := by
  obtain ⟨row, found, accepted⟩ := target_of_settle_check admitted
  refine ⟨row, found, accepted, ?_⟩
  rcases (settle_check_access_eq_ok_iff_of_found found accepted forGrant).mp
    admitted with owner | ⟨grants, read, covered⟩
  · exact .inl owner
  · obtain ⟨own, owned⟩ := own_of_settle_applicableGrants read
    have counted := settle_applicableGrants_of_own owned
    rw [alone, if_neg Bool.false_ne_true, read] at counted
    cases counted
    exact .inr ⟨own, owned, covered⟩

/-- Where the grant to everyone is consulted, a user who needs no more than an
own grant is admitted if that other grant can be read at all. -/
theorem AdmitsAlone.settle_check
    (admits : statement.AdmitsAlone answers object mode) :
    (statement.check (.access object mode) forGrant).settle answers =
      if statement.byOwner = false ∧ statement.consultsPublic = true then
        ((statement.lookup (.grant object publicGrantee)).settle answers).map
          fun _ => ()
      else .ok () := by
  obtain ⟨row, found, accepted, backed⟩ := admits
  rw [settle_check_access_of_found found accepted]
  by_cases owner : statement.byOwner = true
  · simp [owner]
  · obtain ⟨own, owned, covered⟩ := backed.resolve_left owner
    rw [if_neg owner, settle_applicableGrants_of_own owned]
    by_cases consulted : statement.consultsPublic = true
    · rw [if_pos consulted, if_pos ⟨Bool.eq_false_iff.mpr owner, consulted⟩]
      cases (statement.lookup (.grant object publicGrantee)).settle answers with
      | error rejection => rfl
      | ok everyones =>
          have stillCovered : mode.coverage
              ((own.toList ++ everyones.toList).filter (·.object = object)) =
                .complete := by
            refine Access.coverage_mono ?_ covered
            rw [List.filter_append]
            exact List.subset_append_left _ _
          simp only [Except.map, Except.bind, stillCovered]
    · have aside : ¬(statement.byOwner = false ∧
          statement.consultsPublic = true) :=
        fun both => consulted both.2
      rw [if_neg consulted, if_neg aside]
      simp only [Except.bind, covered]

theorem settle_lookup_heeding (honorsPublic : Bool) (wanted : Lookup) :
    ((statement.heeding honorsPublic).lookup wanted).settle answers =
      (statement.lookup wanted).settle answers := by
  cases read : answers (.lookup statement.txn wanted) with
  | ok row =>
      rw [settle_lookup_of_found read]
      exact settle_lookup_of_found read
  | error error =>
      rw [settle_lookup_of_unread read]
      exact settle_lookup_of_unread read

/-- The ownership of a schema has nothing to do with grants. -/
theorem settle_check_ownership_heeding (honorsPublic : Bool)
    (schema : SchemaId) :
    ((statement.heeding honorsPublic).check (.ownership schema)
      forGrant).settle answers =
        (statement.check (.ownership schema) forGrant).settle answers := by
  rw [settle_check, settle_check]
  unfold decision decideOwnership
  rw [Decision.settle_bind, Decision.settle_bind, settle_lookup_heeding]
  cases (statement.lookup (.schema schema)).settle answers with
  | error rejection => rfl
  | ok home =>
      cases home with
      | none => rfl
      | some home => rfl

end Answers

end Statement

/-- Whoever a strict policy admits is also admitted when the grants to everyone
are honoured, except where the grant to everyone is looked up and cannot be read:
that rejects, although nothing hinges on what would have been found. -/
theorem strict_admission_kept_iff {statement : Statement}
    {answers : (question : Question) → question.Answer}
    {requirement : Requirement} {forGrant : Bool}
    (strict : ((statement.heeding false).check requirement forGrant).settle
      answers = .ok ()) :
    let honoring :=
      ((statement.heeding true).check requirement forGrant).settle answers
    (honoring = .ok () ↔
      ∀ error, ¬statement.PublicUnread answers requirement error) ∧
    ∀ error, statement.PublicUnread answers requirement error →
      honoring = .error (.catalogRead error) := by
  intro honoring
  cases requirement with
  | ownership schema =>
      have kept : honoring = .ok () := by
        rw [← strict, Statement.settle_check_ownership_heeding]
        exact Statement.settle_check_ownership_heeding true schema
      exact ⟨iff_of_true kept fun _ => id, fun _ unread => unread.elim⟩
  | access object mode =>
      have alone : (statement.heeding false).AdmitsAlone answers object mode :=
        Statement.admitsAlone_of_settle_check rfl strict
      -- None of what it takes to be admitted alone depends on the grant to
      -- everyone, so the honouring policy starts from the same rows.
      have admits : (statement.heeding true).AdmitsAlone answers object mode :=
        alone
      have unreadRejects : ∀ error,
          statement.PublicUnread answers (.access object mode) error →
            honoring = .error (.catalogRead error) := by
        intro error unread
        obtain ⟨notOwner, notEveryone, failed⟩ := unread
        refine admits.settle_check.trans ?_
        rw [if_pos ⟨notOwner, Statement.consultsPublic_heeding.mpr notEveryone⟩,
          Statement.settle_lookup_heeding,
          Statement.settle_lookup_of_unread failed]
        rfl
      refine ⟨⟨?_, ?_⟩, unreadRejects⟩
      · intro admitted error unread
        rw [unreadRejects error unread] at admitted
        cases admitted
      · intro readable
        refine admits.settle_check.trans ?_
        split
        · rename_i consulted
          obtain ⟨notOwner, heeded⟩ := consulted
          cases read : answers
              (.lookup statement.txn (.grant object publicGrantee)) with
          | ok everyones =>
              rw [Statement.settle_lookup_heeding,
                Statement.settle_lookup_of_found read]
              rfl
          | error error =>
              have notEveryone := Statement.consultsPublic_heeding.mp heeded
              exact (readable error ⟨notOwner, notEveryone, read⟩).elim
        · rfl

/-- A function that `clerk` may execute, by a dictionary that answers in some way
when asked for the grant to everyone. -/
def closingBooks (everyones : Except CatalogError (Option Grant)) :
    (question : Question) → question.Answer
  | .lookup _ (.object id) =>
    .ok (if id = ⟨2⟩ then some ⟨⟨2⟩, ⟨1⟩, "CLOSE_BOOKS", .function⟩ else none)
  | .lookup _ (.grant target grantee) =>
    if grantee = publicGrantee then everyones
    else .ok (some (Grant.ofPrivileges grantee target [.execute] "dba"))
  | .lookup _ (.schema _) => .ok none
  | .lookup _ (.registration _) => .ok none
  | .load name => .error (.classNotFound name)
  | .arguments handle _ => .error (.classNotFound handle.name)

theorem clerk_executes_with_public_honored :
    let statement : Statement := { txn := ⟨1⟩, user := "clerk" }
    let answers := closingBooks (.ok none)
    ((statement.heeding false).check (.access ⟨2⟩ .execute) false).settle
        answers = .ok () ∧
      ((statement.heeding true).check (.access ⟨2⟩ .execute) false).settle
        answers = .ok () := by
  intro statement answers
  have strict : ((statement.heeding false).check (.access ⟨2⟩ .execute)
      false).settle answers = .ok () := rfl
  obtain ⟨kept, -⟩ := strict_admission_kept_iff strict
  refine ⟨strict, kept.mpr ?_⟩
  intro error unread
  obtain ⟨-, -, failed⟩ := unread
  exact nomatch failed

/-- The grant made to `clerk` admits, and the unreadable grant to everyone else
rejects all the same. -/
theorem clerk_rejected_by_unread_public_grant :
    let statement : Statement := { txn := ⟨1⟩, user := "clerk" }
    let answers := closingBooks (.error (.readFailed "page 7"))
    ((statement.heeding false).check (.access ⟨2⟩ .execute) false).settle
        answers = .ok () ∧
      ((statement.heeding true).check (.access ⟨2⟩ .execute) false).settle
        answers = .error (.catalogRead (.readFailed "page 7")) :=
  ⟨rfl, rfl⟩

end SqlAdmission
