import SqlAdmission.Proofs.AggregateBinding
import SqlAdmission.Proofs.ClosingEvents
import SqlAdmission.Proofs.LoadOrder

/-!
# The audit log

Whatever the dictionary and the loader answer, a check asks first and logs at
its end: its verdict and, before an admission, that the owner of the database
passed where that was the reason.  The log of a list of requirements is the one
of the checks that were made, one after the other.  Binding a user-defined
aggregate logs the verdict of its check and then, last, that the aggregate was
bound or that its implementation could not be loaded, if it came to that; which
aggregate it tells is what the dictionary answered.
-/

namespace SqlAdmission

/-- Whether an event tells the verdict of a check. -/
def Event.isDecision : Event → Bool
  | admitted _ _ | rejected _ _ _ => true
  | ownerAdmitted _ _ | loadFailed _ _ | aggregateBound _ | deployed _ _ => false

/-- Whether a rejection tells that an implementation could not be loaded. -/
def Rejection.isLoadFailure : Rejection → Bool
  | .loadFailure _ _ _ _ => true
  | .permissionDenied _ | .danglingReference _ _ | .illegalContract _ _ _
  | .inputMismatch _ _ _ _ | .returnMismatch _ _ _ _ | .illegalOperand _ _
  | .catalogRead _ => false

namespace Statement

variable {α : Type} (statement : Statement)
  {fits : Except Rejection α → List Event → Prop}

/-! ## Checks -/

/-- What the check of a requirement logs, by what it comes to. -/
def records : Requirement → Except Rejection Unit → List Event
  | .access object mode, .ok () =>
    if statement.byOwner then
      [.ownerAdmitted statement.user object,
        .admitted statement.user (.access object mode)]
    else [.admitted statement.user (.access object mode)]
  | .ownership schema, .ok () => [.admitted statement.user (.ownership schema)]
  | requirement, .error rejection =>
    [.rejected statement.user requirement rejection.sqlState]

theorem records_error (requirement : Requirement) (rejection : Rejection) :
    statement.records requirement (.error rejection) =
      [.rejected statement.user requirement rejection.sqlState] := by
  cases requirement <;> rfl

theorem countP_records (requirement : Requirement)
    (result : Except Rejection Unit) :
    (statement.records requirement result).countP Event.isDecision = 1 := by
  cases result with
  | error rejection =>
      rw [records_error]
      rfl
  | ok passed =>
      cases requirement with
      | ownership schema => rfl
      | access object mode =>
          by_cases owner : statement.byOwner = true <;>
            simp [records, owner, Event.isDecision]

/-- What may be logged before the verdict. -/
def Precedes (requirement : Requirement) (result : Except Rejection Unit)
    (events : List Event) : Prop :=
  events ++ [statement.verdict requirement result] =
    statement.records requirement result

theorem precedes_error (requirement : Requirement) (rejection : Rejection) :
    statement.Precedes requirement (.error rejection) [] :=
  (statement.records_error requirement rejection).symm

theorem logs_lookup {wanted : Lookup}
    (unread : ∀ error, fits (.error (.catalogRead error)) []) :
    (statement.lookup wanted).LogsLast (Decision.Leading fits) := by
  refine .ask fun answer => ?_
  cases answer with
  | ok row =>
      exact (Decision.logs_pure rfl :
        (pure row : Decision _).LogsLast (Decision.Leading fits))
  | error error =>
      exact (Decision.logs_throw (unread error) :
        (throw (.catalogRead error) : Decision _).LogsLast
          (Decision.Leading fits))

theorem logs_applicableGrants {object : ObjectId}
    (unread : ∀ error, fits (.error (.catalogRead error)) []) :
    (statement.applicableGrants object).LogsLast (Decision.Leading fits) := by
  refine Decision.logs_bind (statement.logs_lookup unread) fun own => ?_
  split
  · exact Decision.logs_bind (statement.logs_lookup unread) fun _ =>
      Decision.logs_pure rfl
  · exact Decision.logs_bind (Decision.logs_pure rfl) fun _ =>
      Decision.logs_pure rfl

theorem logs_deny {fits : Except Rejection Unit → List Event → Prop}
    (row : ObjectRow) (mode : Access) (missing : Option (List String))
    (forGrant : Bool) (rejected : ∀ rejection, fits (.error rejection) []) :
    (statement.deny row mode missing forGrant).LogsLast fits := by
  refine Decision.logs_bind (statement.logs_lookup fun _ => rejected _) ?_
  intro schema
  cases schema with
  | none => exact Decision.logs_throw (rejected _)
  | some schema => exact Decision.logs_throw (rejected _)

theorem logs_decideAccess (object : ObjectId) (mode : Access)
    (forGrant : Bool) :
    (statement.decideAccess object mode forGrant).LogsLast
      (statement.Precedes (.access object mode)) := by
  have rejected := statement.precedes_error (.access object mode)
  refine Decision.logs_bind (statement.logs_lookup fun _ => rejected _) ?_
  intro found
  split
  · exact Decision.logs_throw (rejected _)
  · split
    · rename_i owner
      have passed : statement.Precedes (.access object mode) (.ok ())
          [.ownerAdmitted statement.user object] := by
        simp [Precedes, records, verdict, owner]
      exact .closes passed (.log .done)
    · rename_i notOwner
      refine Decision.logs_bind
        (statement.logs_applicableGrants fun _ => rejected _) fun grants => ?_
      split
      · refine Decision.logs_pure ?_
        simp [Precedes, records, verdict, notOwner]
      · exact statement.logs_deny _ mode _ forGrant rejected

theorem logs_decideOwnership (schema : SchemaId) (forGrant : Bool) :
    (statement.decideOwnership schema forGrant).LogsLast
      (statement.Precedes (.ownership schema)) := by
  have rejected := statement.precedes_error (.ownership schema)
  refine Decision.logs_bind (statement.logs_lookup fun _ => rejected _) ?_
  intro found
  cases found with
  | none => exact Decision.logs_throw (rejected _)
  | some row =>
      dsimp only
      split
      · exact Decision.logs_pure rfl
      · exact Decision.logs_throw (rejected _)

theorem logs_check (requirement : Requirement) (forGrant : Bool) :
    (statement.check requirement forGrant).LogsLast fun result events =>
      events = statement.records requirement result := by
  have decided : (statement.decision requirement forGrant).LogsLast
      (statement.Precedes requirement) := by
    cases requirement with
    | access object mode =>
        exact statement.logs_decideAccess object mode forGrant
    | ownership schema => exact statement.logs_decideOwnership schema forGrant
  refine Inquiry.LogsLast.bind decided fun result events precedes => ?_
  exact .inr ⟨result, [statement.verdict requirement result], .log .done,
    precedes⟩

theorem mem_records {requirement : Requirement} {result : Except Rejection Unit}
    {event : Event} (member : event ∈ statement.records requirement result) :
    event.isDecision = true ∨
      ∃ object, event = .ownerAdmitted statement.user object := by
  cases result with
  | error rejection =>
      rw [records_error, List.mem_singleton] at member
      exact .inl (member ▸ rfl)
  | ok passed =>
      cases requirement with
      | ownership schema => exact .inl (List.mem_singleton.mp member ▸ rfl)
      | access object mode =>
          by_cases owner : statement.byOwner = true
          · simp only [records, owner, if_true, List.mem_cons,
              List.not_mem_nil, or_false] at member
            rcases member with rfl | rfl
            · exact .inr ⟨object, rfl⟩
            · exact .inl rfl
          · simp only [records, owner, Bool.false_eq_true, if_false,
              List.mem_singleton] at member
            exact .inl (member ▸ rfl)

theorem not_mem_records {requirement : Requirement}
    {result : Except Rejection Unit} {event : Event}
    (undecided : event.isDecision = false)
    (notOwner : ∀ object, event ≠ .ownerAdmitted statement.user object) :
    event ∉ statement.records requirement result := by
  intro member
  rcases statement.mem_records member with decided | ⟨object, same⟩
  · rw [undecided] at decided
    contradiction
  · exact notOwner object same

end Statement

/-! ## Lists of requirements -/

/-- A requirement that was checked, and how its check went. -/
structure Evaluation (σ : Type) where
  requirement : Requirement
  outcome : Outcome σ (Except Rejection Unit)

/-- The checks made for a list of requirements, each from the state that the one
before it left, up to the first that is rejected. -/
def Statement.evaluations {σ : Type} (statement : Statement)
    (respond : Responder σ) (forGrant : Bool) :
    List Requirement → σ → List (Evaluation σ)
  | [], _ => []
  | requirement :: rest, state =>
    let outcome := (statement.check requirement forGrant).play respond state
    ⟨requirement, outcome⟩ ::
      match outcome.value with
      | .ok () => statement.evaluations respond forGrant rest outcome.state
      | .error _ => []

/-- What is logged for a list of requirements is what its checks logged, one
after the other.  Each logged its verdict at its end; all were admitted but
possibly the last, which was rejected if the list is. -/
structure Statement.ChecksLogged {σ : Type} (statement : Statement)
    (requirements : List Requirement) (evaluated : List (Evaluation σ))
    (outcome : Outcome σ (Except Rejection Unit)) : Prop where
  inTurn : outcome.transcript = evaluated.flatMap (·.outcome.transcript)
  inOrder : evaluated.map (·.requirement) <+: requirements
  recorded : ∀ evaluation ∈ evaluated,
    Entry.EndsLogging evaluation.outcome.transcript
      (statement.records evaluation.requirement evaluation.outcome.value)
  admittedBefore : ∀ evaluation ∈ evaluated.dropLast,
    evaluation.outcome.value = .ok ()
  rejectedLast : ∀ rejection, outcome.value = .error rejection ↔
    ∃ last, evaluated.getLast? = some last ∧
      last.outcome.value = .error rejection
  allIfAdmitted : outcome.value = .ok () →
    evaluated.map (·.requirement) = requirements

namespace Statement.ChecksLogged

variable {σ : Type} {statement : Statement} {requirement : Requirement}
  {requirements : List Requirement} {evaluated : List (Evaluation σ)}
  {first outcome : Outcome σ (Except Rejection Unit)}

theorem nil (state : σ) :
    statement.ChecksLogged [] [] (⟨.ok (), state, []⟩ : Outcome σ _) where
  inTurn := rfl
  inOrder := List.prefix_rfl
  recorded := by simp
  admittedBefore := by simp
  rejectedLast := by simp
  allIfAdmitted _ := rfl

theorem rejected {rejection : Rejection}
    (recorded : Entry.EndsLogging first.transcript
      (statement.records requirement first.value))
    (refused : first.value = .error rejection) :
    statement.ChecksLogged (requirement :: requirements) [⟨requirement, first⟩]
      ⟨.error rejection, first.state, first.transcript⟩ where
  inTurn := by simp
  inOrder := by simp
  recorded := by simpa using recorded
  admittedBefore := by simp
  rejectedLast := by simp [refused]
  allIfAdmitted := by simp

theorem cons
    (recorded : Entry.EndsLogging first.transcript
      (statement.records requirement first.value))
    (admitted : first.value = .ok ())
    (later : statement.ChecksLogged requirements evaluated outcome) :
    statement.ChecksLogged (requirement :: requirements)
      (⟨requirement, first⟩ :: evaluated)
      { outcome with
        transcript := first.transcript ++ outcome.transcript } where
  inTurn := by simp [later.inTurn]
  inOrder := by simpa using later.inOrder
  recorded := List.forall_mem_cons.mpr ⟨recorded, later.recorded⟩
  admittedBefore := by
    cases evaluated with
    | nil => simp
    | cons second rest =>
        rw [List.dropLast_cons_cons]
        exact List.forall_mem_cons.mpr ⟨admitted, later.admittedBefore⟩
  rejectedLast rejection := by
    rw [later.rejectedLast rejection]
    cases evaluated with
    | nil => simp [admitted]
    | cons second rest => rw [List.getLast?_cons_cons]
  allIfAdmitted passed := congrArg (List.cons requirement)
    (later.allIfAdmitted passed)

theorem countP_reports
    (logged : statement.ChecksLogged requirements evaluated outcome) :
    (Entry.reports outcome.transcript).countP Event.isDecision =
      evaluated.length := by
  have once : ∀ evaluation ∈ evaluated,
      (Entry.reports evaluation.outcome.transcript).countP Event.isDecision =
        1 := by
    intro evaluation member
    rw [(logged.recorded evaluation member).reports_eq]
    exact statement.countP_records _ _
  rw [logged.inTurn]
  clear logged
  induction evaluated with
  | nil => rfl
  | cons evaluation rest induction =>
      obtain ⟨head, tail⟩ := List.forall_mem_cons.mp once
      rw [List.flatMap_cons, Entry.reports_append, List.countP_append, head,
        induction tail, List.length_cons, Nat.add_comm]

end Statement.ChecksLogged

section Played

variable {σ : Type} (respond : Responder σ) (state : σ) (statement : Statement)

theorem Statement.records_check (requirement : Requirement) (forGrant : Bool) :
    let checked := (statement.check requirement forGrant).play respond state
    Entry.EndsLogging checked.transcript
      (statement.records requirement checked.value) := by
  intro checked
  obtain ⟨events, rfl, ends⟩ :=
    (statement.logs_check requirement forGrant).run respond state
  exact ends

theorem Statement.checksLogged (requirements : List Requirement)
    (forGrant : Bool) :
    statement.ChecksLogged requirements
      (statement.evaluations respond forGrant requirements state)
      ((statement.checkAll requirements forGrant).play respond state) := by
  induction requirements generalizing state with
  | nil => exact .nil state
  | cons requirement rest induction =>
      have recorded :=
        statement.records_check respond state requirement forGrant
      unfold evaluations checkAll
      cases result : ((statement.check requirement forGrant).play respond
          state).value with
      | error rejection =>
          rw [Decision.play_bind_of_error respond state result]
          dsimp only
          rw [result]
          exact .rejected recorded result
      | ok passed =>
          rw [Decision.play_bind_of_ok respond state result]
          dsimp only
          rw [result]
          -- The rest is checked from the state that this check leaves.
          exact .cons recorded result (induction _)

end Played

/-! ## Bindings -/

/-- What a binding logs after the verdict of its check, by what it comes to.  It
tells of the registration that was looked up, and of the error that the loader
answered with. -/
inductive BindingRecords (txn : TxnId) (id : ObjectId) (operand : DataType)
    (calls : List Call) : Except Rejection Binding → List Event → Prop where
  | bound {registration : Registration}
      (found : registration.foundBy txn id ∈ calls) :
      BindingRecords txn id operand calls (.ok (registration.binding operand))
        [.aggregateBound registration]
  | unloaded {registration : Registration} {error : LoadError} {call : Call}
      (found : registration.foundBy txn id ∈ calls)
      (failed : registration.Unloadable error call) (made : call ∈ calls) :
      BindingRecords txn id operand calls
        (.error (registration.loadFailure error))
        [.loadFailed registration error]
  | refused {rejection : Rejection} (other : rejection.isLoadFailure = false) :
      BindingRecords txn id operand calls (.error rejection) []

theorem Rejection.isLoadFailure_of_not_isFailure {rejection : Rejection}
    (unfailed : rejection.isFailure = false) :
    rejection.isLoadFailure = false := by
  cases rejection with
  | loadFailure => contradiction
  | _ => rfl

namespace BindingRecords

variable {txn : TxnId} {id : ObjectId} {operand : DataType}
  {calls more : List Call} {value : Except Rejection Binding}
  {ending : List Event}

theorem of_subset (records : BindingRecords txn id operand calls value ending)
    (included : calls ⊆ more) :
    BindingRecords txn id operand more value ending := by
  cases records with
  | bound found => exact .bound (included found)
  | unloaded found failed made =>
      exact .unloaded (included found) failed (included made)
  | refused other => exact .refused other

theorem bound_iff (records : BindingRecords txn id operand calls value ending) :
    (∃ registration, .aggregateBound registration ∈ ending) ↔
      ∃ binding, value = .ok binding := by
  cases records with
  | bound found => simp
  | unloaded found failed made => simp
  | refused other => simp

theorem unloaded_iff
    (records : BindingRecords txn id operand calls value ending) :
    (∃ registration error, .loadFailed registration error ∈ ending) ↔
      ∃ rejection, value = .error rejection ∧
        rejection.isLoadFailure = true := by
  cases records with
  | bound found => simp
  | unloaded found failed made =>
      simp [Registration.loadFailure, Rejection.isLoadFailure]
  | refused other => simp [other]

theorem countP_eq_zero
    (records : BindingRecords txn id operand calls value ending) :
    ending.countP Event.isDecision = 0 := by
  cases records with
  | bound found => rfl
  | unloaded found failed made => rfl
  | refused other => rfl

end BindingRecords

/-- What is left of a binding after earlier calls logs at its end what it comes
to, whoever answers. -/
def EndsBinding (txn : TxnId) (id : ObjectId) (operand : DataType)
    (earlier : List Call) (binding : Decision Binding) : Prop :=
  ∀ (σ : Type) (respond : Responder σ) (state : σ),
    let bound := binding.play respond state
    ∃ ending,
      BindingRecords txn id operand (earlier ++ Entry.calls bound.transcript)
        bound.value ending ∧
      Entry.EndsLogging bound.transcript ending

namespace EndsBinding

variable {txn : TxnId} {id : ObjectId} {operand : DataType}
  {earlier : List Call}

theorem closes {binding : Decision Binding} {value : Except Rejection Binding}
    {ending : List Event}
    (records : BindingRecords txn id operand earlier value ending)
    (closes : Inquiry.Closes value ending binding.run) :
    EndsBinding txn id operand earlier binding := by
  intro σ respond state bound
  obtain ⟨same, transcript⟩ := closes.run respond state
  have told : bound.value = value := same
  have logged : bound.transcript = ending.map .logged := transcript
  rw [told, logged]
  exact ⟨ending, records.of_subset (List.subset_append_left _ _),
    .map_logged ending⟩

theorem query_bind {question : Question}
    {next : question.Answer → Decision Binding}
    (answered : ∀ answer,
      EndsBinding txn id operand (earlier ++ [⟨question, answer⟩])
        (next answer)) :
    EndsBinding txn id operand earlier (Decision.query question >>= next) := by
  intro σ respond state
  rw [Decision.play_query_bind]
  obtain ⟨ending, records, ends⟩ :=
    answered (respond question state).answer σ respond
      (respond question state).state
  rw [← List.append_cons] at records
  exact ⟨ending, records, ends.asked _ _ _⟩

end EndsBinding

theorem Registration.loaded_ok_bind {α β : Type} (registration : Registration)
    (answer : α) (next : α → Decision β) :
    (registration.loaded (.ok answer) >>= next) = next answer :=
  rfl

theorem Registration.ends_bind {registration : Registration} {txn : TxnId}
    {id : ObjectId} {earlier : List Call}
    (found : registration.foundBy txn id ∈ earlier) (operand : DataType) :
    EndsBinding txn id operand earlier (registration.bind operand) := by
  refine .query_bind fun loaded => ?_
  cases loaded with
  | error error =>
      have foundBefore := List.mem_append_left
        [⟨.load registration.implementation, .error error⟩] found
      exact .closes (.unloaded foundBefore .load List.mem_concat_self)
        (.log .done)
  | ok handle =>
      rw [loaded_ok_bind]
      have foundBefore := List.mem_append_left
        [⟨.load registration.implementation, .ok handle⟩] found
      refine .query_bind fun inspected => ?_
      have foundStill := List.mem_append_left
        [⟨.arguments handle .aggregator, inspected⟩] foundBefore
      cases inspected with
      | error error =>
          exact .closes (.unloaded foundStill (.arguments handle)
            List.mem_concat_self) (.log .done)
      | ok supplied =>
          have unfailed :=
            registration.judge_passes_no_failure_on supplied operand
          rw [loaded_ok_bind]
          cases judged : registration.judge supplied operand with
          | error rejection =>
              rw [judged] at unfailed
              exact .closes (.refused
                (Rejection.isLoadFailure_of_not_isFailure unfailed)) .done
          | ok binding =>
              obtain ⟨-, rfl⟩ := judge_eq_ok_iff.mp judged
              exact .closes (.bound foundStill) (.log .done)

theorem Statement.ends_bindFound (statement : Statement) (id : ObjectId)
    (operand : DataType) :
    EndsBinding statement.txn id operand []
      (statement.bindFound id operand) := by
  unfold bindFound lookup
  rw [bind_assoc]
  refine .query_bind fun found => ?_
  cases found with
  | error error => exact .closes (.refused rfl) .done
  | ok row =>
      cases row with
      | none => exact .closes (.refused rfl) .done
      | some registration =>
          -- The look-up is the only call so far.
          exact Registration.ends_bind List.mem_concat_self operand

/-- A binding logs what its check logged, hence one verdict, and then how it
ended: last that the aggregate was bound if it is, and last that the
implementation could not be loaded if that is what it comes to, each of the
registration that was looked up. -/
structure Statement.BindingLogged {σ : Type} (statement : Statement)
    (id : ObjectId) (operand : DataType)
    (checked : Outcome σ (Except Rejection Unit))
    (bound : Outcome σ (Except Rejection Binding)) : Prop where
  recorded : ∃ ending,
    BindingRecords statement.txn id operand (Entry.calls bound.transcript)
      bound.value ending ∧
    Entry.reports bound.transcript =
      statement.records (.access id .execute) checked.value ++ ending ∧
    ending.map .logged <:+ bound.transcript
  decidedOnce : (Entry.reports bound.transcript).countP Event.isDecision = 1
  boundIff :
    (∃ registration,
      .aggregateBound registration ∈ Entry.reports bound.transcript) ↔
    ∃ binding, bound.value = .ok binding
  unloadedIff :
    (∃ registration error,
      .loadFailed registration error ∈ Entry.reports bound.transcript) ↔
    ∃ rejection, bound.value = .error rejection ∧
      rejection.isLoadFailure = true

section Played

variable {σ : Type} (respond : Responder σ) (state : σ) (statement : Statement)

theorem Statement.BindingLogged.of_ending {id : ObjectId} {operand : DataType}
    {checked : Outcome σ (Except Rejection Unit)}
    {bound : Outcome σ (Except Rejection Binding)} {ending : List Event}
    (records : BindingRecords statement.txn id operand
      (Entry.calls bound.transcript) bound.value ending)
    (reported : Entry.reports bound.transcript =
      statement.records (.access id .execute) checked.value ++ ending)
    (last : ending.map .logged <:+ bound.transcript) :
    statement.BindingLogged id operand checked bound where
  recorded := ⟨ending, records, reported, last⟩
  decidedOnce := by
    rw [reported, List.countP_append, statement.countP_records,
      records.countP_eq_zero]
  boundIff := by
    rw [← records.bound_iff]
    refine exists_congr fun registration => ?_
    rw [reported, List.mem_append]
    exact or_iff_right (statement.not_mem_records rfl (by simp))
  unloadedIff := by
    rw [← records.unloaded_iff]
    refine exists_congr fun registration => exists_congr fun error => ?_
    rw [reported, List.mem_append]
    exact or_iff_right (statement.not_mem_records rfl (by simp))

/-- A check asks nothing of the loader, so no failure of the loader rejects
it. -/
theorem Statement.not_isLoadFailure_of_check {requirement : Requirement}
    {forGrant : Bool} {rejection : Rejection}
    (refused : ((statement.check requirement forGrant).play respond
      state).value = .error rejection) :
    rejection.isLoadFailure = false := by
  cases rejection with
  | loadFailure implementation schema name detail =>
      have heeds : (statement.check requirement forGrant).HeedsFailures
          statement.asksOnRights [] := statement.heeds_check requirement forGrant
      obtain ⟨before, call, split, rejects⟩ :=
        (heeds.failsClosed respond state).only _ refused rfl
      have member : call ∈ Entry.calls
          ((statement.check requirement forGrant).play respond
            state).transcript :=
        split ▸ List.mem_concat_self
      have onRights := ((statement.asks_check requirement
        forGrant).of_mem_calls respond state member).1
      cases rejects with
      | unloaded found failed => cases failed <;> contradiction
  | _ => rfl

theorem Statement.bindingLogged (id : ObjectId) (operand : DataType) :
    statement.BindingLogged id operand
      ((statement.check (.access id .execute) false).play respond state)
      ((statement.bindRegistered id operand).play respond state) := by
  have decided :=
    statement.records_check respond state (.access id .execute) false
  rw [statement.bindRegistered_eq]
  cases result : ((statement.check (.access id .execute) false).play respond
      state).value with
  | error rejection =>
      rw [Decision.play_bind_of_error respond state result]
      have other := statement.not_isLoadFailure_of_check respond state result
      refine .of_ending statement (.refused other) ?_ (List.nil_suffix)
      rw [List.append_nil]
      exact decided.reports_eq
  | ok passed =>
      rw [Decision.play_bind_of_ok respond state result]
      obtain ⟨ending, records, ends⟩ := statement.ends_bindFound id operand
        σ respond ((statement.check (.access id .execute) false).play respond
          state).state
      rw [List.nil_append] at records
      have withCheck := records.of_subset (List.subset_append_right
        (Entry.calls ((statement.check (.access id .execute) false).play
          respond state).transcript) _)
      rw [← Entry.calls_append] at withCheck
      refine .of_ending statement withCheck ?_
        (ends.suffix.trans (List.suffix_append _ _))
      exact (Entry.reports_append _ _).trans
        (congrArg₂ (· ++ ·) decided.reports_eq ends.reports_eq)

/-- The log tells what was decided.  Whatever the dictionary and the loader
answer, each check that is made for a list of requirements logs its verdict, and
that the owner of the database was admitted to an object right before it, and
nothing else; and a binding logs the verdict of its check and, last, that it was
bound or that its implementation could not be loaded. -/
theorem audit_log_tells_decisions :
    (∀ requirements forGrant,
      let evaluated :=
        statement.evaluations respond forGrant requirements state
      let outcome :=
        (statement.checkAll requirements forGrant).play respond state
      statement.ChecksLogged requirements evaluated outcome ∧
        (Entry.reports outcome.transcript).countP Event.isDecision =
          evaluated.length) ∧
    ∀ id operand,
      statement.BindingLogged id operand
        ((statement.check (.access id .execute) false).play respond state)
        ((statement.bindRegistered id operand).play respond state) := by
  refine ⟨fun requirements forGrant => ?_, statement.bindingLogged respond state⟩
  have logged := statement.checksLogged respond state requirements forGrant
  exact ⟨logged, logged.countP_reports⟩

/-- The owner of the database is told apart at objects, but not at schemas. -/
example :
    let stores : Stores := { catalog := Catalog.empty.run spreadDeclared }
    let statement : Statement :=
      { txn := ⟨1⟩, user := "dba", policy := .ownedBy "dba" }
    let outcome := (statement.checkAll [.access ⟨2⟩ .execute, .ownership ⟨1⟩,
      .access ⟨3⟩ .execute, .access ⟨2⟩ .execute] false).play
        Stores.responder stores
    Entry.reports outcome.transcript =
      [.ownerAdmitted "dba" ⟨2⟩, .admitted "dba" (.access ⟨2⟩ .execute),
        .admitted "dba" (.ownership ⟨1⟩),
        .rejected "dba" (.access ⟨3⟩ .execute) "XCZ02"] := by
  rfl

/-- A call that is bound, one whose implementation is gone, and one that is
rejected before any of it is looked up. -/
example :
    let spread : Registration :=
      ⟨⟨2⟩, "APP", "SPREAD", .double, .double, "stats.Spread"⟩
    let logged (user : String) (artifacts : ArtifactStore) : List Event :=
      let statement : Statement := { txn := ⟨1⟩, user }
      Entry.reports ((statement.bindRegistered ⟨2⟩ .int).play Stores.responder
        ⟨Catalog.empty.run spreadDeclared, artifacts⟩).transcript
    let bound := logged "clerk" (ArtifactStore.empty.run spreadDeployed)
    let unloaded := logged "clerk" ArtifactStore.empty
    bound = [.admitted "clerk" (.access ⟨2⟩ .execute), .aggregateBound spread] ∧
      unloaded = [.admitted "clerk" (.access ⟨2⟩ .execute),
        .loadFailed spread (.classNotFound "stats.Spread")] ∧
      unloaded.map Event.level = [.debug, .warn] ∧
      logged "stranger" ArtifactStore.empty =
        [.rejected "stranger" (.access ⟨2⟩ .execute) "42504"] := by
  refine ⟨?_, ?_, ?_, ?_⟩ <;> rfl

end Played

end SqlAdmission
