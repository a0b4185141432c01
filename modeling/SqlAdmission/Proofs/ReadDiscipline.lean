import SqlAdmission.Proofs.LoadOrder
import SqlAdmission.Session.Basic

/-!
# What a check reads

The check of an access reads its target, the grants made to the user, those
made to everyone where they count, and the schema of the target, in this order
and no further than needed: nothing but the target for the owner of the
database, and the schema only to name it in a denial.  The check of ownership
reads the schema only.  All reads are made in the transaction of the statement,
and the first one that fails is the last, and what the statement comes to.
-/

namespace SqlAdmission

/-- The grant that a call found. -/
def Call.grant? : Call → Option Grant
  | ⟨.lookup _ (.grant _ _), .ok found⟩ => found
  | ⟨.lookup _ (.grant _ _), .error _⟩
  | ⟨.lookup _ (.object _), _⟩ | ⟨.lookup _ (.schema _), _⟩
  | ⟨.lookup _ (.registration _), _⟩ | ⟨.load _, _⟩ | ⟨.arguments _ _, _⟩ =>
      none

/-- The grants on an object that calls found. -/
def grantsRead (object : ObjectId) (calls : List Call) : List Grant :=
  (calls.filterMap Call.grant?).filter (·.object = object)

theorem grantsRead_target {txn : TxnId} {object id : ObjectId}
    {answer : Except CatalogError (Option ObjectRow)} (calls : List Call) :
    grantsRead object (⟨.lookup txn (.object id), answer⟩ :: calls) =
      grantsRead object calls :=
  rfl

theorem grantsRead_append_schema {txn : TxnId} {object : ObjectId}
    {schema : SchemaId} {answer : Except CatalogError (Option SchemaRow)}
    (calls : List Call) :
    grantsRead object (calls ++ [⟨.lookup txn (.schema schema), answer⟩]) =
      grantsRead object calls := by
  simp [grantsRead, List.filterMap_cons, Call.grant?]

theorem grantsRead_one {txn : TxnId} {object target : ObjectId}
    {grantee : String} (own : Option Grant) :
    grantsRead object [⟨.lookup txn (.grant target grantee), .ok own⟩] =
      (own.toList ++ none.toList).filter (·.object = object) := by
  cases own <;> rfl

theorem grantsRead_two {txn : TxnId} {object target : ObjectId}
    {grantee other : String} (own everyones : Option Grant) :
    grantsRead object
        [⟨.lookup txn (.grant target grantee), .ok own⟩,
          ⟨.lookup txn (.grant target other), .ok everyones⟩] =
      (own.toList ++ everyones.toList).filter (·.object = object) := by
  cases own <;> cases everyones <;> rfl

namespace Statement

/-- The look-ups of the grants that count for the user. -/
def grantQuestions (statement : Statement) (object : ObjectId) :
    List Question :=
  .lookup statement.txn (.grant object statement.user) ::
    if statement.consultsPublic then
      [.lookup statement.txn (.grant object publicGrantee)]
    else []

theorem of_mem_grantQuestions {statement : Statement} {object : ObjectId}
    {question : Question} (asked : question ∈ statement.grantQuestions object) :
    ∃ grantee, question = .lookup statement.txn (.grant object grantee) := by
  unfold grantQuestions at asked
  rcases List.mem_cons.mp asked with own | everyones
  · exact ⟨_, own⟩
  · split at everyones
    · exact ⟨_, List.mem_singleton.mp everyones⟩
    · contradiction

theorem schema_not_mem_grantQuestions (statement : Statement)
    (object : ObjectId) (schema : SchemaId) :
    .lookup statement.txn (.schema schema) ∉
      statement.grantQuestions object := by
  intro asked
  obtain ⟨grantee, about⟩ := of_mem_grantQuestions asked
  cases about

/-- What is left of an access once its grants have been read. -/
def decideBy (statement : Statement) (row : ObjectRow) (mode : Access)
    (forGrant : Bool) (grants : List Grant) : Decision Unit :=
  match mode.coverage grants with
  | .complete => return
  | .lacking missing => statement.deny row mode missing forGrant

/-- All that may be looked up for an access to an object of a schema. -/
def accessQuestions (statement : Statement) (object : ObjectId)
    (schema : SchemaId) : List Question :=
  .lookup statement.txn (.object object) ::
    (statement.grantQuestions object ++
      [.lookup statement.txn (.schema schema)])

end Statement

/-- The calls for an access read what is needed and no more.  Unless a read
fails, all grants that count are read for whoever does not own the database, and
the schema is if they leave the access uncovered. -/
structure AccessReads (statement : Statement) (object : ObjectId)
    (mode : Access) (calls : List Call) : Prop where
  inOrder : ∃ answer later,
    calls = ⟨.lookup statement.txn (.object object), answer⟩ :: later ∧
      match answer with
      | .ok (some row) =>
        calls.map Call.question <+: statement.accessQuestions object row.schema
      | .ok none | .error _ => later = []
  byOwner : statement.byOwner = true →
    calls.map Call.question = [.lookup statement.txn (.object object)]
  schemaIfLacking : ∀ schema answer,
    ⟨.lookup statement.txn (.schema schema), answer⟩ ∈ calls →
      mode.coverage (grantsRead object calls) ≠ .complete
  asNeeded : ∀ row later,
    calls = ⟨.lookup statement.txn (.object object), .ok (some row)⟩ :: later →
    mode.accepts row.kind = true → statement.byOwner = false →
    (∀ call ∈ later, call.isAnswered = true) →
      later.map Call.question =
        if mode.coverage (grantsRead object calls) = .complete then
          statement.grantQuestions object
        else
          statement.grantQuestions object ++
            [.lookup statement.txn (.schema row.schema)]

namespace AccessReads

variable {statement : Statement} {object : ObjectId} {mode : Access}
  {row : ObjectRow} {reads : List Call}

/-- A look-up of the target is all if it decides. -/
theorem target {answer : Except CatalogError (Option ObjectRow)}
    (decides : ∀ row, answer = .ok (some row) →
      mode.accepts row.kind = true → statement.byOwner = true) :
    AccessReads statement object mode
      [⟨.lookup statement.txn (.object object), answer⟩] := by
  constructor
  · refine ⟨answer, [], rfl, ?_⟩
    split
    · simp [Statement.accessQuestions]
    · rfl
    · rfl
  · intro _
    rfl
  · intro schema answer member
    simp at member
  · intro row later calls accepted notOwner _
    cases calls
    have owner := decides row rfl accepted
    simp [notOwner] at owner

/-- The look-ups of grants are all if one of them fails or they cover. -/
theorem grants (notOwner : statement.byOwner = false)
    (asked : reads.map Call.question <+: statement.grantQuestions object)
    (decided : (∀ call ∈ reads, call.isAnswered = true) →
      reads.map Call.question = statement.grantQuestions object ∧
        mode.coverage (grantsRead object reads) = .complete) :
    AccessReads statement object mode
      (⟨.lookup statement.txn (.object object), .ok (some row)⟩ :: reads) := by
  constructor
  · refine ⟨_, _, rfl, ?_⟩
    apply (List.prefix_cons_inj _).mpr
    exact asked.trans (List.prefix_append _ _)
  · intro owner
    simp [notOwner] at owner
  · intro schema answer member
    rcases List.mem_cons.mp member with same | later
    · simp at same
    · exact absurd (asked.subset (List.mem_map_of_mem later))
        (statement.schema_not_mem_grantQuestions object schema)
  · intro _ _ calls _ _ answered
    cases calls
    obtain ⟨all, complete⟩ := decided answered
    rw [all, grantsRead_target, if_pos complete]

theorem schema (notOwner : statement.byOwner = false)
    (asked : reads.map Call.question = statement.grantQuestions object)
    (lacking : mode.coverage (grantsRead object reads) ≠ .complete)
    (answer : Except CatalogError (Option SchemaRow)) :
    AccessReads statement object mode
      (⟨.lookup statement.txn (.object object), .ok (some row)⟩ ::
        (reads ++ [⟨.lookup statement.txn (.schema row.schema), answer⟩])) := by
  have lackingStill : mode.coverage (grantsRead object
      (⟨.lookup statement.txn (.object object), .ok (some row)⟩ ::
        (reads ++ [⟨.lookup statement.txn (.schema row.schema), answer⟩]))) ≠
      .complete := by
    rw [grantsRead_target, grantsRead_append_schema]
    exact lacking
  constructor
  · refine ⟨_, _, rfl, ?_⟩
    simp [Statement.accessQuestions, asked]
  · intro owner
    simp [notOwner] at owner
  · intro _ _ _
    exact lackingStill
  · intro _ _ calls _ _ _
    cases calls
    rw [if_neg lackingStill]
    simp [asked]

end AccessReads

section Played

variable {σ : Type} (respond : Responder σ) (state : σ) (statement : Statement)

namespace Statement

/-- The grants are read up to a failure, or all of them are and what is left is
decided by them. -/
theorem calls_applicableGrants_bind {β : Type} (object : ObjectId)
    (next : List Grant → Decision β) :
    let calls := Entry.calls
      ((statement.applicableGrants object >>= next).play respond
        state).transcript
    (calls.map Call.question <+: statement.grantQuestions object ∧
        ∃ call ∈ calls, call.isAnswered = false) ∨
      ∃ reads after,
        reads.map Call.question = statement.grantQuestions object ∧
        calls = reads ++ Entry.calls
          ((next (grantsRead object reads)).play respond after).transcript := by
  intro calls
  unfold calls applicableGrants
  rw [bind_assoc, calls_lookup_bind]
  cases (respond (.lookup statement.txn (.grant object statement.user))
      state).answer with
  | error error =>
      left
      simp [grantQuestions, Call.isAnswered]
  | ok own =>
      dsimp only
      cases consulted : statement.consultsPublic with
      | false =>
          right
          let reads : List Call :=
            [⟨.lookup statement.txn (.grant object statement.user), .ok own⟩]
          have asked :
              reads.map Call.question = statement.grantQuestions object := by
            simp [reads, grantQuestions, consulted]
          refine ⟨reads, ?_⟩
          rw [grantsRead_one own]
          exact ⟨_, asked, rfl⟩
      | true =>
          simp only [if_true]
          rw [bind_assoc, calls_lookup_bind]
          cases (respond (.lookup statement.txn
              (.grant object publicGrantee)) _).answer with
          | error error =>
              left
              simp [grantQuestions, consulted, Call.isAnswered]
          | ok everyones =>
              right
              let reads : List Call :=
                [⟨.lookup statement.txn (.grant object statement.user),
                    .ok own⟩,
                  ⟨.lookup statement.txn (.grant object publicGrantee),
                    .ok everyones⟩]
              have asked :
                  reads.map Call.question = statement.grantQuestions object := by
                simp [reads, grantQuestions, consulted]
              refine ⟨reads, ?_⟩
              rw [grantsRead_two own everyones]
              exact ⟨_, asked, rfl⟩

theorem calls_deny (row : ObjectRow) (mode : Access)
    (missing : Option (List String)) (forGrant : Bool) :
    ∃ answer, Entry.calls
        ((statement.deny row mode missing forGrant).play respond
          state).transcript =
      [⟨.lookup statement.txn (.schema row.schema), answer⟩] := by
  refine ⟨(respond (.lookup statement.txn (.schema row.schema)) state).answer,
    ?_⟩
  unfold deny
  rw [calls_lookup_bind, List.cons.injEq]
  refine ⟨rfl, ?_⟩
  split
  · split <;> rfl
  · rfl

/-- The decision by grants follows the look-up of the target. -/
theorem decideBy_reads (notOwner : statement.byOwner = false)
    (object : ObjectId) (row : ObjectRow) (mode : Access) (forGrant : Bool) :
    AccessReads statement object mode
      (⟨.lookup statement.txn (.object object), .ok (some row)⟩ ::
        Entry.calls ((statement.applicableGrants object >>=
          statement.decideBy row mode forGrant).play respond
            state).transcript) := by
  rcases statement.calls_applicableGrants_bind respond state object _ with
    ⟨asked, call, member, failed⟩ | ⟨reads, after, asked, calls⟩
  · apply AccessReads.grants notOwner asked
    intro answered
    simp [answered call member] at failed
  · rw [calls]
    unfold decideBy
    cases covered : mode.coverage (grantsRead object reads) with
    | complete =>
        dsimp only
        rw [Decision.calls_pure, List.append_nil]
        apply AccessReads.grants notOwner (asked ▸ List.prefix_refl _)
        intro _
        exact ⟨asked, covered⟩
    | lacking missing =>
        obtain ⟨answer, denied⟩ :=
          statement.calls_deny respond after row mode missing forGrant
        dsimp only
        rw [denied]
        exact .schema notOwner asked (by simp [covered]) answer

theorem decideAccess_reads (object : ObjectId) (mode : Access)
    (forGrant : Bool) :
    AccessReads statement object mode (Entry.calls
      ((statement.decideAccess object mode forGrant).play respond
        state).transcript) := by
  unfold decideAccess
  rw [calls_lookup_bind]
  cases (respond (.lookup statement.txn (.object object)) state).answer with
  | error error => exact .target (by simp)
  | ok found =>
      dsimp only
      cases accepted : found.filter (mode.accepts ·.kind) with
      | none =>
          apply AccessReads.target
          intro row same fits
          cases same
          simp [fits] at accepted
      | some row =>
          obtain ⟨rfl, _⟩ := Option.filter_eq_some_iff.mp accepted
          cases owner : statement.byOwner with
          | true => exact .target fun _ _ _ => owner
          | false =>
              exact statement.decideBy_reads respond _ owner object row mode
                forGrant

theorem decideOwnership_reads (schema : SchemaId) (forGrant : Bool) :
    (Entry.calls ((statement.decideOwnership schema forGrant).play respond
      state).transcript).map Call.question =
        [.lookup statement.txn (.schema schema)] := by
  unfold decideOwnership
  rw [calls_lookup_bind, List.map_cons, List.cons.injEq]
  refine ⟨rfl, ?_⟩
  split
  · split
    · rfl
    · split <;> rfl
  · rfl

/-- A check is its decision with the verdict logged. -/
theorem play_check (requirement : Requirement) (forGrant : Bool) :
    (statement.check requirement forGrant).play respond state =
      let decided :=
        (statement.decision requirement forGrant).play respond state
      { decided with
        transcript := decided.transcript ++
          [.logged (statement.verdict requirement decided.value)] } :=
  Inquiry.run_bind respond (statement.decision requirement forGrant).run
    (fun result => do
      Inquiry.report (statement.verdict requirement result)
      return result) state

theorem calls_check (requirement : Requirement) (forGrant : Bool) :
    Entry.calls
        ((statement.check requirement forGrant).play respond state).transcript =
      Entry.calls ((statement.decision requirement forGrant).play respond
        state).transcript := by
  rw [play_check, Entry.calls_append]
  exact List.append_nil _

end Statement

/-- What is read to check a requirement. -/
def Statement.CheckReads (calls : List Call) : Requirement → Prop
  | .access object mode => AccessReads statement object mode calls
  | .ownership schema =>
    calls.map Call.question = [.lookup statement.txn (.schema schema)]

/-- An outcome reads the dictionary in one transaction and fails closed. -/
structure Outcome.Disciplined {α : Type} (txn : TxnId)
    (outcome : Outcome σ (Except Rejection α)) : Prop where
  ownTransaction : ∀ call ∈ Entry.calls outcome.transcript,
    call.question.MadeIn txn
  failsClosed : FailsClosed [] (Entry.calls outcome.transcript) outcome.value

theorem Decision.HeedsFailures.disciplined {α : Type}
    {allowed : Question → Prop} {txn : TxnId} {decision : Decision α}
    (heeds : decision.HeedsFailures allowed [])
    (own : ∀ question, allowed question → question.MadeIn txn) :
    (decision.play respond state).Disciplined txn := by
  constructor
  · intro call member
    exact own _ (heeds.asks.of_mem_calls respond state member)
  · exact heeds.failsClosed respond state

/-- Against any dictionary and loader, a check reads what it needs and no more,
and checks and bindings read in the transaction of the statement and fail
closed. -/
theorem reads_fail_closed :
    (∀ requirement forGrant,
      let outcome := (statement.check requirement forGrant).play respond state
      statement.CheckReads (Entry.calls outcome.transcript) requirement ∧
        outcome.Disciplined statement.txn) ∧
    (∀ requirements forGrant,
      ((statement.checkAll requirements forGrant).play respond
        state).Disciplined statement.txn) ∧
    ∀ id operand,
      ((statement.bindRegistered id operand).play respond
        state).Disciplined statement.txn := by
  refine ⟨?_, ?_, ?_⟩
  · intro requirement forGrant outcome
    constructor
    · unfold outcome
      rw [statement.calls_check]
      cases requirement with
      | access object mode =>
          exact statement.decideAccess_reads respond state object mode forGrant
      | ownership schema =>
          exact statement.decideOwnership_reads respond state schema forGrant
    · exact (statement.heeds_check requirement forGrant).disciplined respond
        state fun _ => And.right
  · intro requirements forGrant
    exact (statement.heeds_checkAll requirements forGrant).disciplined respond
      state fun _ => And.right
  · intro id operand
    exact (statement.heeds_bindRegistered id operand).disciplined respond
      state fun _ own => own

/-- The second requirement meets a read that fails, so the third one is never
looked at. -/
example :
    let overlay := ({} : Overlay).setFault .object
      (some ⟨1, .readFailed "objects"⟩)
    let session : Session :=
      { stores := { catalog := Catalog.empty.run spreadDeclared }, overlay }
    let execute : Requirement := .access ⟨2⟩ .execute
    let outcome := ((session.statement "clerk").checkAll
      [execute, execute, .ownership ⟨1⟩] false).play Session.respond session
    let lookup := Question.lookup ⟨1⟩
    outcome.value = .error (.catalogRead (.readFailed "objects")) ∧
      Entry.questions outcome.transcript =
        [lookup (.object ⟨2⟩), lookup (.grant ⟨2⟩ "clerk"),
          lookup (.grant ⟨2⟩ "PUBLIC"), lookup (.object ⟨2⟩)] :=
  ⟨rfl, rfl⟩

/-- A loader that fails is not asked again, and its failure names the aggregate
that was looked up. -/
example :
    let overlay : Overlay :=
      { loadError := some (.classNotFound "stats.Spread") }
    let session : Session :=
      { stores := { catalog := Catalog.empty.run spreadDeclared }, overlay }
    let outcome := ((session.statement "clerk").bindRegistered ⟨2⟩ .int).play
      Session.respond session
    outcome.value = .error (.loadFailure "stats.Spread" "APP" "SPREAD"
        (LoadError.classNotFound "stats.Spread").message) ∧
      (Entry.questions outcome.transcript).getLast? =
        some (.load "stats.Spread") :=
  ⟨rfl, rfl⟩

end Played

end SqlAdmission
