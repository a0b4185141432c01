import SqlAdmission.Proofs.ReadDiscipline

/-!
# Trusted rows

Some rows that a dictionary answers with may not be worth their trust.  An
admission or a binding that has come about is therefore run again against the
same dictionary, which now leaves those rows out.  It comes about again exactly
if the rows that it read suffice without them.  This is told by the calls of the
first run.
-/

namespace SqlAdmission

/-- Which rows of a dictionary are to be trusted. -/
abbrev Trust := (wanted : Lookup) → wanted.Row → Bool

namespace Trust

/-- Every row is trusted. -/
def all : Trust := fun _ _ => true

/-- No row that could answer the question is left out. -/
def LeavesAlone (trust : Trust) : Question → Prop
  | .lookup _ wanted => ∀ row, trust wanted row = true
  | .load _ | .arguments _ _ => True

theorem leavesAlone_of_isForLoader {trust : Trust} {question : Question}
    (forLoader : question.isForLoader = true) : trust.LeavesAlone question := by
  cases question with
  | lookup txn wanted => contradiction
  | load name => trivial
  | arguments handle contract => trivial

theorem all_leavesAlone (question : Question) : all.LeavesAlone question := by
  cases question with
  | lookup txn wanted => exact fun _ => rfl
  | load name => trivial
  | arguments handle contract => trivial

end Trust

/-- The responder whose dictionary leaves out the rows that are not to be
trusted. -/
def Responder.trusting {σ : Type} (respond : Responder σ) (trust : Trust) :
    Responder σ
  | .lookup txn wanted, state =>
    let reply := respond (.lookup txn wanted) state
    { reply with answer := reply.answer.map (·.filter (trust wanted)) }
  | .load name, state => respond (.load name) state
  | .arguments handle contract, state =>
    respond (.arguments handle contract) state

/-- The call without a row that is not to be trusted. -/
def Call.trusting (trust : Trust) : Call → Call
  | ⟨.lookup txn wanted, answer⟩ =>
    ⟨.lookup txn wanted, answer.map (·.filter (trust wanted))⟩
  | ⟨.load name, answer⟩ => ⟨.load name, answer⟩
  | ⟨.arguments handle contract, answer⟩ => ⟨.arguments handle contract, answer⟩

namespace Trust

/-- Every row that calls found under a key is trusted. -/
def Accepts (trust : Trust) (calls : List Call) (wanted : Lookup) : Prop :=
  ∀ txn row, ⟨.lookup txn wanted, .ok (some row)⟩ ∈ calls →
    trust wanted row = true

theorem accepts_append_iff {trust : Trust} {earlier later : List Call}
    {wanted : Lookup} :
    trust.Accepts (earlier ++ later) wanted ↔
      trust.Accepts earlier wanted ∧ trust.Accepts later wanted := by
  simp only [Accepts, List.mem_append, or_imp, forall_and]

theorem accepts_singleton_iff {trust : Trust} {txn : TxnId} {wanted : Lookup}
    {row : wanted.Row} :
    trust.Accepts [⟨.lookup txn wanted, .ok (some row)⟩] wanted ↔
      trust wanted row = true := by
  constructor
  · intro accepts
    exact accepts txn row List.mem_cons_self
  · intro trusted other found member
    cases List.mem_singleton.mp member
    exact trusted

theorem accepts_of_unasked {trust : Trust} {calls : List Call} {wanted : Lookup}
    (unasked : ∀ call ∈ calls, ∀ txn, call.question ≠ .lookup txn wanted) :
    trust.Accepts calls wanted := by
  intro txn row member
  exact (unasked _ member txn rfl).elim

/-- The trusted ones among the rows that calls found admit by themselves. -/
def Admits (trust : Trust) (calls : List Call) : Requirement → Prop
  | .access object mode =>
    trust.Accepts calls (.object object) ∧
      mode.coverage (grantsRead object (calls.map (·.trusting trust))) =
        .complete
  | .ownership schema => trust.Accepts calls (.schema schema)

end Trust

/-- What an outcome ends in: its value and the state it leaves. -/
def Outcome.ending {σ α : Type} (outcome : Outcome σ α) : α × σ :=
  (outcome.value, outcome.state)

section Played

variable {σ : Type} (respond : Responder σ) (state : σ) (statement : Statement)
  (trust : Trust)

/-! ## What is left alone -/

theorem filter_of_trusted {wanted : Lookup}
    (trusted : ∀ row, trust wanted row = true) (row : Option wanted.Row) :
    row.filter (trust wanted) = row := by
  cases row with
  | none => rfl
  | some row => exact Option.filter_some_pos (trusted row)

theorem map_filter_of_trusted {wanted : Lookup}
    (trusted : ∀ row, trust wanted row = true)
    (answer : Except CatalogError (Option wanted.Row)) :
    answer.map (·.filter (trust wanted)) = answer := by
  cases answer with
  | error error => rfl
  | ok row => exact congrArg Except.ok (filter_of_trusted trust trusted row)

theorem Call.trusting_of_leavesAlone {call : Call}
    (alone : trust.LeavesAlone call.question) : call.trusting trust = call := by
  obtain ⟨question, answer⟩ := call
  cases question with
  | lookup txn wanted => simp only [trusting, map_filter_of_trusted trust alone]
  | load name => rfl
  | arguments handle contract => rfl

theorem Call.map_trusting_all (calls : List Call) :
    calls.map (·.trusting .all) = calls :=
  List.map_id'' (fun call =>
    trusting_of_leavesAlone .all (Trust.all_leavesAlone call.question)) calls

theorem Responder.trusting_of_leavesAlone {question : Question}
    (alone : trust.LeavesAlone question) :
    respond.trusting trust question state = respond question state := by
  cases question with
  | lookup txn wanted => simp only [trusting, map_filter_of_trusted trust alone]
  | load name => rfl
  | arguments handle contract => rfl

theorem Responder.trusting_all : respond.trusting .all = respond :=
  funext fun question => funext fun state =>
    respond.trusting_of_leavesAlone state .all (Trust.all_leavesAlone question)

/-- Whoever asks nothing that would be left out gets the same answers. -/
theorem Inquiry.Asks.run_trusting {α : Type} {inquiry : Inquiry α}
    (asks : inquiry.Asks trust.LeavesAlone) :
    inquiry.run (respond.trusting trust) state = inquiry.run respond state := by
  induction asks generalizing state with
  | done value => rfl
  | log _ rest => rw [Inquiry.run, rest, Inquiry.run]
  | ask alone _ answered =>
      rw [Inquiry.run, respond.trusting_of_leavesAlone state trust alone,
        answered, Inquiry.run]

theorem Registration.play_bind_trusting (registration : Registration)
    (operand : DataType) :
    (registration.bind operand).play (respond.trusting trust) state =
      (registration.bind operand).play respond state :=
  (registration.asks_bind operand fun _ =>
    Trust.leavesAlone_of_isForLoader).run_trusting respond state trust

/-- The run itself is the one that trusts everything. -/
theorem Decision.ending_trusting_all {α : Type} {decision : Decision α}
    {value : α} (admitted : (decision.play respond state).value = .ok value) :
    (decision.play (respond.trusting .all) state).ending =
      (.ok value, (decision.play respond state).state) := by
  rw [respond.trusting_all, ← admitted]
  rfl

theorem Decision.ending_query_bind {β : Type} (question : Question)
    (next : question.Answer → Decision β) :
    ((Decision.query question >>= next).play respond state).ending =
      ((next (respond question state).answer).play respond
        (respond question state).state).ending :=
  rfl

theorem Question.not_concernsRights_of_isForLoader {question : Question}
    (forLoader : question.isForLoader = true) :
    question.concernsRights = false := by
  cases question with
  | lookup txn wanted => contradiction
  | load name => rfl
  | arguments handle contract => rfl

namespace Statement

/-! ## Reads -/

/-- A look-up that is answered is followed by what is done with the row, if it
is trusted. -/
theorem ending_lookup_bind_of_ok {wanted : Lookup} {row : Option wanted.Row}
    (answered : (respond (.lookup statement.txn wanted) state).answer = .ok row)
    {β : Type} (next : Option wanted.Row → Decision β) :
    ((statement.lookup wanted >>= next).play (respond.trusting trust)
        state).ending =
      ((next (row.filter (trust wanted))).play (respond.trusting trust)
        (respond (.lookup statement.txn wanted) state).state).ending := by
  have trusted :
      (respond.trusting trust (.lookup statement.txn wanted) state).answer =
        .ok (row.filter (trust wanted)) := by
    simp only [Responder.trusting, answered, Except.map]
  unfold lookup
  rw [bind_assoc, Decision.ending_query_bind, trusted]
  rfl

theorem ending_lookup_bind_of_error {wanted : Lookup} {error : CatalogError}
    (failed : (respond (.lookup statement.txn wanted) state).answer =
      .error error)
    {β : Type} (next : Option wanted.Row → Decision β) :
    ((statement.lookup wanted >>= next).play (respond.trusting trust)
        state).ending =
      (.error (.catalogRead error),
        (respond (.lookup statement.txn wanted) state).state) := by
  have untrusted :
      (respond.trusting trust (.lookup statement.txn wanted) state).answer =
        .error error := by
    simp only [Responder.trusting, failed, Except.map]
  unfold lookup
  rw [bind_assoc, Decision.ending_query_bind, untrusted]
  rfl

theorem filterMap_grant?_singleton {txn : TxnId} {object : ObjectId}
    {grantee : String} (found : Option Grant) :
    [(⟨.lookup txn (.grant object grantee), .ok found⟩ : Call)].filterMap
      Call.grant? = found.toList := by
  cases found <;> rfl

/-- The look-up of the grant made to everyone, where it counts for the user. -/
def grantOfEveryone (object : ObjectId) : Decision (Option Grant) :=
  if statement.consultsPublic then
    statement.lookup (.grant object publicGrantee)
  else pure none

theorem applicableGrants_bind {β : Type} (object : ObjectId)
    (next : List Grant → Decision β) :
    statement.applicableGrants object >>= next =
      statement.lookup (.grant object statement.user) >>= fun own =>
        statement.grantOfEveryone object >>= fun everyones =>
          next ((own.toList ++ everyones.toList).filter (·.object = object)) := by
  unfold applicableGrants grantOfEveryone
  rw [bind_assoc]
  refine congrArg _ (funext fun own => ?_)
  cases statement.consultsPublic with
  | false => rfl
  | true =>
      simp only [if_true]
      rw [bind_assoc]
      rfl

/-- The look-up of the grant made to everyone fails, or what is left is done with
the grant, if one was found and is trusted. -/
theorem ending_grantOfEveryone_bind_trusting (object : ObjectId) :
    (∃ rejection after, ∀ trust {β : Type} (next : Option Grant → Decision β),
      ((statement.grantOfEveryone object >>= next).play
          (respond.trusting trust) state).ending =
        (.error rejection, after)) ∨
    ∃ found reads after,
      reads.map Call.question = (statement.grantQuestions object).tail ∧
      (∀ trust, (reads.map (·.trusting trust)).filterMap Call.grant? =
        (found.filter (trust (.grant object publicGrantee))).toList) ∧
      ∀ {β : Type} (next : Option Grant → Decision β),
        Entry.calls ((statement.grantOfEveryone object >>= next).play respond
            state).transcript =
          reads ++ Entry.calls ((next found).play respond after).transcript ∧
        ∀ trust,
          ((statement.grantOfEveryone object >>= next).play
              (respond.trusting trust) state).ending =
            ((next (found.filter (trust (.grant object publicGrantee)))).play
              (respond.trusting trust) after).ending := by
  unfold grantOfEveryone
  cases consulted : statement.consultsPublic with
  | false =>
      right
      refine ⟨none, [], state, ?_, fun _ => rfl, fun _ => ⟨rfl, fun _ => rfl⟩⟩
      simp [grantQuestions, consulted]
  | true =>
      simp only [if_true]
      cases answered : (respond (.lookup statement.txn
          (.grant object publicGrantee)) state).answer with
      | error error =>
          left
          exact ⟨_, _, fun trust {_} next =>
            statement.ending_lookup_bind_of_error respond state trust answered
              next⟩
      | ok found =>
          right
          refine ⟨found,
            [⟨.lookup statement.txn (.grant object publicGrantee), .ok found⟩],
            (respond (.lookup statement.txn
              (.grant object publicGrantee)) state).state,
            ?_, fun trust => ?_, fun next => ⟨?_, fun trust => ?_⟩⟩
          · simp [grantQuestions, consulted]
          · exact filterMap_grant?_singleton
              (found.filter (trust (.grant object publicGrantee)))
          · rw [calls_lookup_bind, answered]
            rfl
          · exact statement.ending_lookup_bind_of_ok respond state trust
              answered next

/-- The grants are read up to a failure, or what is left is decided by the ones
that were read and are trusted. -/
theorem ending_applicableGrants_bind_trusting (object : ObjectId) :
    (∃ rejection after, ∀ trust {β : Type} (next : List Grant → Decision β),
      ((statement.applicableGrants object >>= next).play
          (respond.trusting trust) state).ending =
        (.error rejection, after)) ∨
    ∃ reads after,
      reads.map Call.question = statement.grantQuestions object ∧
      ∀ {β : Type} (next : List Grant → Decision β),
        Entry.calls ((statement.applicableGrants object >>= next).play respond
            state).transcript =
          reads ++ Entry.calls
            ((next (grantsRead object reads)).play respond after).transcript ∧
        ∀ trust,
          ((statement.applicableGrants object >>= next).play
              (respond.trusting trust) state).ending =
            ((next (grantsRead object (reads.map (·.trusting trust)))).play
              (respond.trusting trust) after).ending := by
  simp only [applicableGrants_bind]
  cases owned : (respond (.lookup statement.txn
      (.grant object statement.user)) state).answer with
  | error error =>
      left
      exact ⟨_, _, fun trust {_} _ =>
        statement.ending_lookup_bind_of_error respond state trust owned _⟩
  | ok own =>
      rcases statement.ending_grantOfEveryone_bind_trusting respond _ object with
        ⟨rejection, after, failed⟩ |
          ⟨everyones, later, after, asked, granted, decided⟩
      · left
        exact ⟨rejection, after, fun trust {_} _ =>
          (statement.ending_lookup_bind_of_ok respond state trust owned _).trans
            (failed trust _)⟩
      · right
        let reads : List Call :=
          ⟨.lookup statement.txn (.grant object statement.user), .ok own⟩ :: later
        have counted : ∀ trust,
            grantsRead object (reads.map (·.trusting trust)) =
              ((own.filter (trust (.grant object statement.user))).toList ++
                (everyones.filter
                  (trust (.grant object publicGrantee))).toList).filter
                    (·.object = object) := by
          intro trust
          unfold grantsRead
          rw [List.map_cons, ← List.singleton_append, List.filterMap_append,
            granted trust]
          refine congrArg (List.filter _ <| · ++ _) ?_
          exact filterMap_grant?_singleton
            (own.filter (trust (.grant object statement.user)))
        refine ⟨reads, after, ?_, fun next => ⟨?_, fun trust => ?_⟩⟩
        · exact congrArg (List.cons _) asked
        · have whole := counted .all
          rw [Call.map_trusting_all, filter_of_trusted .all fun _ => rfl,
            filter_of_trusted .all fun _ => rfl] at whole
          rw [calls_lookup_bind, owned, whole]
          exact congrArg (List.cons _) (decided _).1
        · rw [counted trust]
          exact (statement.ending_lookup_bind_of_ok respond state trust owned
            _).trans ((decided _).2 trust)

/-! ## Checks -/

theorem ending_deny_ne_ok (row : ObjectRow) (mode : Access)
    (missing : Option (List String)) (forGrant : Bool) :
    ((statement.deny row mode missing forGrant).play (respond.trusting trust)
      state).ending.1 ≠ .ok () := by
  unfold deny
  cases found : (respond (.lookup statement.txn (.schema row.schema))
      state).answer with
  | error error =>
      rw [statement.ending_lookup_bind_of_error respond state trust found]
      exact nofun
  | ok home =>
      rw [statement.ending_lookup_bind_of_ok respond state trust found]
      cases home.filter (trust (.schema row.schema)) with
      | none => exact nofun
      | some home => exact nofun

theorem ending_decideBy (row : ObjectRow) (mode : Access) (forGrant : Bool)
    (grants : List Grant) :
    let ending := ((statement.decideBy row mode forGrant grants).play
      (respond.trusting trust) state).ending
    (ending.1 = .ok () ↔ mode.coverage grants = .complete) ∧
      (ending.1 = .ok () → ending.2 = state) := by
  intro ending
  unfold ending decideBy
  cases mode.coverage grants with
  | complete => exact ⟨iff_of_true rfl rfl, fun _ => rfl⟩
  | lacking missing =>
      have denied := statement.ending_deny_ne_ok respond state trust row mode
        missing forGrant
      exact ⟨iff_of_false denied nofun, fun admitted => (denied admitted).elim⟩

variable {object : ObjectId} {mode : Access}

/-- A target of a fitting kind leaves the grants to decide. -/
theorem calls_decideAccess_of_found (notOwner : statement.byOwner = false)
    {row : ObjectRow}
    (found : (respond (.lookup statement.txn (.object object)) state).answer =
      .ok (some row))
    (accepted : mode.accepts row.kind = true) (forGrant : Bool) :
    let between :=
      (respond (.lookup statement.txn (.object object)) state).state
    Entry.calls ((statement.decideAccess object mode forGrant).play respond
        state).transcript =
      ⟨.lookup statement.txn (.object object), .ok (some row)⟩ ::
        Entry.calls ((statement.applicableGrants object >>=
          statement.decideBy row mode forGrant).play respond
            between).transcript := by
  intro between
  have kept : Option.filter
      (fun row : ObjectRow => mode.accepts row.kind) (some row) = some row :=
    Option.filter_some_pos accepted
  unfold decideAccess
  rw [calls_lookup_bind, found]
  dsimp only
  rw [kept]
  simp only [notOwner, Bool.false_eq_true, if_false]
  rfl

/-- A target that is not to be trusted is no target. -/
theorem ending_decideAccess_of_found (notOwner : statement.byOwner = false)
    {row : ObjectRow}
    (found : (respond (.lookup statement.txn (.object object)) state).answer =
      .ok (some row))
    (accepted : mode.accepts row.kind = true) (forGrant : Bool) :
    let between :=
      (respond (.lookup statement.txn (.object object)) state).state
    ((statement.decideAccess object mode forGrant).play
        (respond.trusting trust) state).ending =
      if trust (.object object) row = true then
        ((statement.applicableGrants object >>=
          statement.decideBy row mode forGrant).play (respond.trusting trust)
            between).ending
      else
        (.error (.danglingReference mode.targetKind object.val), between) := by
  intro between
  unfold decideAccess
  rw [statement.ending_lookup_bind_of_ok respond state trust found]
  have kept : Option.filter
      (fun row : ObjectRow => mode.accepts row.kind) (some row) = some row :=
    Option.filter_some_pos accepted
  cases trusted : trust (.object object) row with
  | true =>
      rw [Option.filter_some_pos trusted, kept, if_pos rfl]
      simp only [notOwner, Bool.false_eq_true, if_false]
      rfl
  | false =>
      rw [Option.filter_some_neg trusted]
      rfl

variable {forGrant : Bool}

theorem target_of_ending_decideAccess
    (admitted : ((statement.decideAccess object mode forGrant).play
      (respond.trusting trust) state).ending.1 = .ok ()) :
    ∃ row,
      (respond (.lookup statement.txn (.object object)) state).answer =
          .ok (some row) ∧
        mode.accepts row.kind = true := by
  unfold decideAccess at admitted
  cases found : (respond (.lookup statement.txn (.object object))
      state).answer with
  | error error =>
      rw [statement.ending_lookup_bind_of_error respond state trust found]
        at admitted
      contradiction
  | ok target =>
      rw [statement.ending_lookup_bind_of_ok respond state trust found]
        at admitted
      cases kept : (target.filter (trust (.object object))).filter
          (fun row : ObjectRow => mode.accepts row.kind) with
      | none =>
          rw [kept] at admitted
          contradiction
      | some row =>
          obtain ⟨resolved, accepted⟩ := Option.filter_eq_some_iff.mp kept
          obtain ⟨same, -⟩ := Option.filter_eq_some_iff.mp resolved
          exact ⟨row, by rw [same], accepted⟩

/-- Of the rows that an admission has read, the trusted ones admit as well if
the target is among them and the grants among them cover the access. -/
theorem trusting_decideAccess (notOwner : statement.byOwner = false)
    (admitted : ((statement.decideAccess object mode forGrant).play respond
      state).value = .ok ()) :
    let outcome := (statement.decideAccess object mode forGrant).play respond
      state
    ∃ row reads,
      Entry.calls outcome.transcript =
          ⟨.lookup statement.txn (.object object), .ok (some row)⟩ :: reads ∧
      reads.map Call.question = statement.grantQuestions object ∧
      ∀ trust,
        let ending := ((statement.decideAccess object mode forGrant).play
          (respond.trusting trust) state).ending
        (ending.1 = .ok () ↔
          trust (.object object) row = true ∧
            mode.coverage (grantsRead object (reads.map (·.trusting trust))) =
              .complete) ∧
        (ending.1 = .ok () → ending.2 = outcome.state) := by
  intro outcome
  have itself := Decision.ending_trusting_all respond state admitted
  obtain ⟨row, found, accepted⟩ :=
    statement.target_of_ending_decideAccess respond state .all
      (congrArg Prod.fst itself)
  have split := fun trust => statement.ending_decideAccess_of_found respond
    state trust notOwner found accepted forGrant
  rcases statement.ending_applicableGrants_bind_trusting respond _ object with
    ⟨rejection, after, failed⟩ | ⟨reads, after, asked, decided⟩
  · have rejected := (itself.symm.trans (split .all)).trans
      ((if_pos rfl).trans (failed .all _))
    cases rejected
  · obtain ⟨calls, endings⟩ := decided (statement.decideBy row mode forGrant)
    have weighed := fun trust => statement.ending_decideBy respond after trust
      row mode forGrant (grantsRead object (reads.map (·.trusting trust)))
    have decidedItself := ((if_pos rfl).trans (endings .all)).symm.trans
      ((split .all).symm.trans itself)
    have complete : mode.coverage (grantsRead object reads) = .complete := by
      have covered := (weighed .all).1.mp (congrArg Prod.fst decidedItself)
      rwa [Call.map_trusting_all] at covered
    have last : after = outcome.state :=
      ((weighed .all).2 (congrArg Prod.fst decidedItself)).symm.trans
        (congrArg Prod.snd decidedItself)
    refine ⟨row, reads, ?_, asked, fun trust => ?_⟩
    · have nothingMore : Entry.calls ((statement.decideBy row mode forGrant
          (grantsRead object reads)).play respond after).transcript = [] := by
        unfold decideBy
        rw [complete]
        exact Decision.calls_pure respond after ()
      refine (statement.calls_decideAccess_of_found respond state notOwner found
        accepted forGrant).trans (congrArg (List.cons _) (calls.trans ?_))
      rw [nothingMore, List.append_nil]
    · intro ending
      have told : ending = _ := split trust
      cases trusted : trust (.object object) row with
      | true =>
          rw [trusted, if_pos rfl, endings trust] at told
          rw [told, ← last]
          simpa using weighed trust
      | false =>
          rw [trusted, if_neg Bool.false_ne_true] at told
          rw [told]
          simp

theorem ending_check (requirement : Requirement) (forGrant : Bool) :
    ((statement.check requirement forGrant).play respond state).ending =
      ((statement.decision requirement forGrant).play respond
        state).ending := by
  rw [play_check]
  rfl

/-- A schema that is not to be trusted is no schema. -/
theorem ending_decideOwnership_of_found {schema : SchemaId} {row : SchemaRow}
    (found : (respond (.lookup statement.txn (.schema schema)) state).answer =
      .ok (some row))
    (owned : row.owner = statement.user) (forGrant : Bool) :
    let between :=
      (respond (.lookup statement.txn (.schema schema)) state).state
    ((statement.decideOwnership schema forGrant).play (respond.trusting trust)
        state).ending =
      if trust (.schema schema) row = true then (.ok (), between)
      else (.error (.danglingReference "schema" schema.val), between) := by
  intro between
  unfold decideOwnership
  rw [statement.ending_lookup_bind_of_ok respond state trust found]
  cases trusted : trust (.schema schema) row with
  | true =>
      rw [Option.filter_some_pos trusted]
      simp only [owned, decide_true, Bool.true_or, if_true]
      rfl
  | false =>
      rw [Option.filter_some_neg trusted]
      rfl

theorem owner_of_ending_decideOwnership (notOwner : statement.byOwner = false)
    {schema : SchemaId}
    (admitted : ((statement.decideOwnership schema forGrant).play
      (respond.trusting trust) state).ending.1 = .ok ()) :
    ∃ row,
      (respond (.lookup statement.txn (.schema schema)) state).answer =
          .ok (some row) ∧
        row.owner = statement.user := by
  unfold decideOwnership at admitted
  cases found : (respond (.lookup statement.txn (.schema schema))
      state).answer with
  | error error =>
      rw [statement.ending_lookup_bind_of_error respond state trust found]
        at admitted
      contradiction
  | ok home =>
      rw [statement.ending_lookup_bind_of_ok respond state trust found]
        at admitted
      cases kept : home.filter (trust (.schema schema)) with
      | none =>
          rw [kept] at admitted
          contradiction
      | some row =>
          obtain ⟨same, -⟩ := Option.filter_eq_some_iff.mp kept
          refine ⟨row, by rw [same],
            Decidable.byContradiction fun other => ?_⟩
          rw [kept] at admitted
          simp only [notOwner, other, decide_false, Bool.or_false,
            Bool.false_eq_true, if_false] at admitted
          contradiction

theorem trusting_decideOwnership (notOwner : statement.byOwner = false)
    {schema : SchemaId}
    (admitted : ((statement.decideOwnership schema forGrant).play respond
      state).value = .ok ()) :
    let outcome :=
      (statement.decideOwnership schema forGrant).play respond state
    ∃ row,
      Entry.calls outcome.transcript =
        [⟨.lookup statement.txn (.schema schema), .ok (some row)⟩] ∧
      ∀ trust,
        let ending := ((statement.decideOwnership schema forGrant).play
          (respond.trusting trust) state).ending
        (ending.1 = .ok () ↔ trust (.schema schema) row = true) ∧
          (ending.1 = .ok () → ending.2 = outcome.state) := by
  intro outcome
  have itself := Decision.ending_trusting_all respond state admitted
  obtain ⟨row, found, owned⟩ :=
    statement.owner_of_ending_decideOwnership respond state .all notOwner
      (congrArg Prod.fst itself)
  have split := fun trust => statement.ending_decideOwnership_of_found respond
    state trust found owned forGrant
  have last : _ = outcome.state :=
    congrArg Prod.snd ((split .all).symm.trans itself)
  refine ⟨row, ?_, fun trust => ?_⟩
  · unfold outcome decideOwnership
    rw [calls_lookup_bind, found]
    simp only [owned, decide_true, Bool.true_or, if_true]
    rfl
  · intro ending
    have told : ending = _ := split trust
    rw [told]
    cases trust (.schema schema) row with
    | true => exact ⟨iff_of_true rfl rfl, fun _ => last⟩
    | false => exact ⟨iff_of_false nofun nofun, nofun⟩

theorem admits_access_iff {row : ObjectRow} {reads : List Call}
    (asked : reads.map Call.question = statement.grantQuestions object) :
    trust.Admits (⟨.lookup statement.txn (.object object), .ok (some row)⟩ ::
        reads) (.access object mode) ↔
      trust (.object object) row = true ∧
        mode.coverage (grantsRead object (reads.map (·.trusting trust))) =
          .complete := by
  have unasked : trust.Accepts reads (.object object) := by
    refine Trust.accepts_of_unasked fun call member txn about => ?_
    have listed : call.question ∈ statement.grantQuestions object := by
      rw [← asked]
      exact List.mem_map_of_mem member
    obtain ⟨grantee, grants⟩ := of_mem_grantQuestions listed
    rw [about] at grants
    cases grants
  dsimp only [Trust.Admits]
  rw [← List.singleton_append, Trust.accepts_append_iff,
    Trust.accepts_singleton_iff]
  simp only [unasked, and_true]
  rfl

/-- An admission is kept where rows are left out exactly if what it read admits
by the rows that are trusted. -/
theorem trusting_check (notOwner : statement.byOwner = false)
    {requirement : Requirement}
    (admitted : ((statement.check requirement forGrant).play respond
      state).value = .ok ()) :
    let outcome := (statement.check requirement forGrant).play respond state
    let ending := ((statement.check requirement forGrant).play
      (respond.trusting trust) state).ending
    (ending.1 = .ok () ↔
        trust.Admits (Entry.calls outcome.transcript) requirement) ∧
      (ending.1 = .ok () → ending.2 = outcome.state) := by
  intro outcome ending
  have same := statement.ending_check respond state requirement forGrant
  have told : ending = _ :=
    statement.ending_check (respond.trusting trust) state requirement forGrant
  have decided := (congrArg Prod.fst same).symm.trans admitted
  have kept : outcome.state = _ := congrArg Prod.snd same
  unfold outcome at kept
  unfold outcome
  rw [told, calls_check, kept]
  cases requirement with
  | access object mode =>
      obtain ⟨row, reads, calls, asked, endings⟩ :=
        statement.trusting_decideAccess respond state notOwner decided
      rw [show Entry.calls ((statement.decision (.access object mode)
        forGrant).play respond state).transcript = _ from calls,
        statement.admits_access_iff trust asked]
      exact endings trust
  | ownership schema =>
      obtain ⟨row, calls, endings⟩ :=
        statement.trusting_decideOwnership respond state notOwner decided
      rw [show Entry.calls ((statement.decision (.ownership schema)
        forGrant).play respond state).transcript = _ from calls]
      dsimp only [Trust.Admits]
      rw [Trust.accepts_singleton_iff]
      exact endings trust

/-! ## Bindings -/

/-- Calls that do not concern rights add nothing to what admits. -/
theorem admits_access_append_iff {earlier later : List Call}
    (foreign : ∀ call ∈ later, call.question.concernsRights = false) :
    trust.Admits (earlier ++ later) (.access object mode) ↔
      trust.Admits earlier (.access object mode) := by
  have unasked : trust.Accepts later (.object object) := by
    refine Trust.accepts_of_unasked fun call member txn about => ?_
    have aside := foreign call member
    rw [about] at aside
    contradiction
  have unread : (later.map (·.trusting trust)).filterMap Call.grant? = [] := by
    rw [List.filterMap_eq_nil_iff]
    intro purged member
    obtain ⟨⟨question, answer⟩, listed, rfl⟩ := List.mem_map.mp member
    have aside := foreign _ listed
    cases question with
    | lookup txn wanted =>
        cases wanted with
        | registration id => rfl
        | grant target grantee => contradiction
        | object id => contradiction
        | schema id => contradiction
    | load name => rfl
    | arguments handle contract => rfl
  dsimp only [Trust.Admits]
  rw [Trust.accepts_append_iff]
  simp only [unasked, and_true, grantsRead, List.map_append,
    List.filterMap_append, unread, List.append_nil]

/-- A registration that is not to be trusted is no registration. -/
theorem trusting_bindFound {id : ObjectId} {operand : DataType}
    {binding : Binding}
    (bound : ((statement.bindFound id operand).play respond state).value =
      .ok binding) :
    ∃ registration loading,
      Entry.calls
          ((statement.bindFound id operand).play respond state).transcript =
        ⟨.lookup statement.txn (.registration id), .ok (some registration)⟩ ::
          loading ∧
      (∀ call ∈ loading, call.question.isForLoader = true) ∧
      ∀ trust,
        ((statement.bindFound id operand).play (respond.trusting trust)
            state).ending.1 =
          if trust (.registration id) registration = true then .ok binding
          else .error (.danglingReference "aggregate" id.val) := by
  have itself := Decision.ending_trusting_all respond state bound
  unfold bindFound at itself ⊢
  cases found : (respond (.lookup statement.txn (.registration id))
      state).answer with
  | error error =>
      rw [statement.ending_lookup_bind_of_error respond state .all found]
        at itself
      cases itself
  | ok row =>
      rw [statement.ending_lookup_bind_of_ok respond state .all found] at itself
      cases row with
      | none => cases itself
      | some registration =>
          rw [Option.filter_some_pos rfl] at itself
          dsimp only at itself
          rw [registration.play_bind_trusting] at itself
          let between :=
            (respond (.lookup statement.txn (.registration id)) state).state
          refine ⟨registration, Entry.calls ((registration.bind operand).play
            respond between).transcript, ?_, ?_, fun trust => ?_⟩
          · rw [calls_lookup_bind, found]
          · intro call member
            exact (registration.asks_bind operand
              fun _ forLoader => forLoader).of_mem_calls respond _ member
          · rw [statement.ending_lookup_bind_of_ok respond state trust found]
            cases trusted : trust (.registration id) registration with
            | true =>
                rw [Option.filter_some_pos trusted]
                dsimp only
                rw [registration.play_bind_trusting]
                exact congrArg Prod.fst itself
            | false =>
                rw [Option.filter_some_neg trusted]
                rfl

theorem accepts_registration_iff {txn : TxnId} {id : ObjectId}
    {registration : Registration} {earlier loading : List Call}
    (onRights : ∀ call ∈ earlier, call.question.concernsRights = true)
    (forLoader : ∀ call ∈ loading, call.question.isForLoader = true) :
    trust.Accepts
        (earlier ++ ⟨.lookup txn (.registration id), .ok (some registration)⟩ ::
          loading) (.registration id) ↔
      trust (.registration id) registration = true := by
  have before : trust.Accepts earlier (.registration id) := by
    refine Trust.accepts_of_unasked fun call member txn about => ?_
    have concerned := onRights call member
    rw [about] at concerned
    contradiction
  have after : trust.Accepts loading (.registration id) := by
    refine Trust.accepts_of_unasked fun call member txn about => ?_
    have loader := forLoader call member
    rw [about] at loader
    contradiction
  rw [← List.singleton_append, Trust.accepts_append_iff,
    Trust.accepts_append_iff, Trust.accepts_singleton_iff]
  simp only [before, after, true_and, and_true]

theorem value_bindRegistered (id : ObjectId) (operand : DataType) :
    let checked :=
      (statement.check (.access id .execute) false).play respond state
    ((statement.bindRegistered id operand).play respond state).value =
      match checked.value with
      | .error rejection => .error rejection
      | .ok () =>
        ((statement.bindFound id operand).play respond checked.state).value := by
  intro checked
  rw [bindRegistered_eq]
  cases verdict : checked.value with
  | error rejection =>
      rw [Decision.play_bind_of_error respond state verdict]
  | ok passed => rw [Decision.play_bind_of_ok respond state verdict]

theorem calls_bindRegistered_of_ok {id : ObjectId} (operand : DataType)
    (admitted : ((statement.check (.access id .execute) false).play respond
      state).value = .ok ()) :
    let checked :=
      (statement.check (.access id .execute) false).play respond state
    Entry.calls ((statement.bindRegistered id operand).play respond
        state).transcript =
      Entry.calls checked.transcript ++ Entry.calls
        ((statement.bindFound id operand).play respond
          checked.state).transcript := by
  intro checked
  rw [bindRegistered_eq, Decision.play_bind_of_ok respond state admitted]
  exact Entry.calls_append _ _

theorem trusting_bindRegistered (notOwner : statement.byOwner = false)
    {id : ObjectId} {operand : DataType} {binding : Binding}
    (bound : ((statement.bindRegistered id operand).play respond state).value =
      .ok binding) :
    let calls := Entry.calls ((statement.bindRegistered id operand).play respond
      state).transcript
    let value := ((statement.bindRegistered id operand).play
      (respond.trusting trust) state).value
    (value = .ok binding ↔
        trust.Admits calls (.access id .execute) ∧
          trust.Accepts calls (.registration id)) ∧
      ∀ other, value = .ok other → other = binding := by
  intro calls value
  let checked :=
    (statement.check (.access id .execute) false).play respond state
  let purged := (statement.check (.access id .execute) false).play
    (respond.trusting trust) state
  have told :=
    (statement.value_bindRegistered respond state id operand).symm.trans bound
  have toldAgain : value = _ :=
    statement.value_bindRegistered (respond.trusting trust) state id operand
  change (match checked.value with | .error _ => _ | .ok () => _) = _ at told
  change _ = match purged.value with | .error _ => _ | .ok () => _ at toldAgain
  cases admitted : checked.value with
  | error rejection =>
      rw [admitted] at told
      cases told
  | ok passed =>
      rw [admitted] at told
      obtain ⟨registration, loading, found, forLoader, bindings⟩ :=
        statement.trusting_bindFound respond checked.state told
      obtain ⟨admits, sameState⟩ :=
        statement.trusting_check respond state trust notOwner admitted
      have onRights : ∀ call ∈ Entry.calls checked.transcript,
          call.question.concernsRights = true := fun call member =>
        ((asks_check statement (.access id .execute) false).of_mem_calls respond
          state member).1
      have all : calls = Entry.calls checked.transcript ++
          (⟨.lookup statement.txn (.registration id), .ok (some registration)⟩ ::
            loading) := by
        rw [← found]
        exact statement.calls_bindRegistered_of_ok respond state operand admitted
      have asMuch : trust.Admits calls (.access id .execute) ↔
          trust.Admits (Entry.calls checked.transcript)
            (.access id .execute) := by
        rw [all]
        refine admits_access_append_iff trust fun call member => ?_
        rcases List.mem_cons.mp member with rfl | later
        · rfl
        · exact Question.not_concernsRights_of_isForLoader (forLoader call later)
      have registered : trust.Accepts calls (.registration id) ↔
          trust (.registration id) registration = true := by
        rw [all]
        exact accepts_registration_iff trust onRights forLoader
      rw [asMuch, registered, ← admits]
      change (_ ↔ purged.value = .ok () ∧ _) ∧ _
      cases kept : purged.value with
      | error rejection =>
          rw [kept] at toldAgain
          rw [toldAgain]
          simp
      | ok passed =>
          rw [kept, show purged.state = checked.state from sameState kept]
            at toldAgain
          rw [toldAgain.trans (bindings trust)]
          cases trust (.registration id) registration with
          | true => simp
          | false => simp

end Statement

end Played

end SqlAdmission
