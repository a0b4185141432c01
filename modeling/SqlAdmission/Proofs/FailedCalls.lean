import SqlAdmission.Proofs.Calls
import SqlAdmission.Statement.Bind

/-!
# Failed calls

Each question of a decision can be answered by a failure.  A decision heeds
failures if it asks nothing more after one and comes to the rejection that the
failed call amounts to, and if it comes to such a rejection in no other way.
What a failure of the loader amounts to is told by the registration found
before, so the calls made so far are kept along.  Decisions in a row heed
failures if each of them does, so it is enough to look at every question once,
where it is asked.
-/

namespace SqlAdmission

/-- Whether a call got an answer and not a failure. -/
def Call.isAnswered : Call → Bool
  | ⟨.lookup _ _, .ok _⟩ | ⟨.load _, .ok _⟩ | ⟨.arguments _ _, .ok _⟩ => true
  | ⟨.lookup _ _, .error _⟩ | ⟨.load _, .error _⟩
  | ⟨.arguments _ _, .error _⟩ => false

/-- The look-up of the registration of an aggregate that found this one. -/
def Registration.foundBy (registration : Registration) (txn : TxnId)
    (id : ObjectId) : Call :=
  ⟨.lookup txn (.registration id), .ok (some registration)⟩

/-- The calls have found the registration of an aggregate. -/
def Registered (calls : List Call) (registration : Registration) : Prop :=
  ∃ txn id, registration.foundBy txn id ∈ calls

/-- The loader was asked for what a registration names, and failed. -/
inductive Registration.Unloadable (registration : Registration)
    (error : LoadError) : Call → Prop where
  | load : Unloadable registration error
      ⟨.load registration.implementation, .error error⟩
  | arguments (handle : Handle) : Unloadable registration error
      ⟨.arguments handle .aggregator, .error error⟩

/-- The rejections that a failed call amounts to after earlier ones.  The loader
is asked on behalf of a registration that these have found. -/
inductive Call.Rejects (earlier : List Call) : Call → Rejection → Prop where
  | unread {txn : TxnId} {wanted : Lookup} (error : CatalogError) :
      Rejects earlier ⟨.lookup txn wanted, .error error⟩ (.catalogRead error)
  | unloaded {registration : Registration} {error : LoadError} {call : Call}
      (found : Registered earlier registration)
      (failed : registration.Unloadable error call) :
      Rejects earlier call (registration.loadFailure error)

section Earlier

variable {earlier wider : List Call} {registration : Registration}

theorem Registered.of_subset (found : Registered earlier registration)
    (included : earlier ⊆ wider) : Registered wider registration := by
  obtain ⟨txn, id, member⟩ := found
  exact ⟨txn, id, included member⟩

theorem Call.Rejects.of_subset {call : Call} {rejection : Rejection}
    (rejects : call.Rejects earlier rejection) (included : earlier ⊆ wider) :
    call.Rejects wider rejection := by
  cases rejects with
  | unread error => exact .unread error
  | unloaded found failed => exact .unloaded (found.of_subset included) failed

end Earlier

/-- Whether a rejection passes the failure of a call on. -/
def Rejection.isFailure : Rejection → Bool
  | .catalogRead _ | .loadFailure _ _ _ _ => true
  | .permissionDenied _ | .danglingReference _ _ | .illegalContract _ _ _
  | .inputMismatch _ _ _ _ | .returnMismatch _ _ _ _
  | .illegalOperand _ _ => false

def passesFailureOn {α : Type} : Except Rejection α → Bool
  | .ok _ => false
  | .error rejection => rejection.isFailure

/-- A failed call is the last one, and its rejection is what the calls come to;
they come to a failure in no other way.  The earlier calls are the ones made
before all these. -/
structure FailsClosed {α : Type} (earlier calls : List Call)
    (value : Except Rejection α) : Prop where
  stops : ∀ before call after, calls = before ++ call :: after →
    call.isAnswered = false →
    after = [] ∧ ∃ rejection,
      call.Rejects (earlier ++ before) rejection ∧ value = .error rejection
  only : ∀ rejection, value = .error rejection → rejection.isFailure = true →
    ∃ before call, calls = before ++ [call] ∧
      call.Rejects (earlier ++ before) rejection

namespace FailsClosed

variable {α : Type} {call : Call} {earlier calls : List Call}
  {value : Except Rejection α} {rejection : Rejection}

theorem nil (unfailed : passesFailureOn value = false) :
    FailsClosed earlier [] value where
  stops before call after split := by simp at split
  only rejection rejected failure := by
    rw [rejected] at unfailed
    exact absurd failure (Bool.eq_false_iff.mp unfailed)

theorem singleton (rejects : call.Rejects earlier rejection) :
    FailsClosed earlier [call] (.error rejection : Except Rejection α) where
  stops before last after split _ := by
    cases before with
    | nil =>
        cases split
        rw [List.append_nil]
        exact ⟨rfl, rejection, rejects, rfl⟩
    | cons first before => simp at split
  only other same _ := by
    cases same
    refine ⟨[], call, rfl, ?_⟩
    rw [List.append_nil]
    exact rejects

theorem cons (answered : call.isAnswered = true)
    (later : FailsClosed (earlier ++ [call]) calls value) :
    FailsClosed earlier (call :: calls) value where
  stops before failed after split failure := by
    cases before with
    | nil =>
        cases split
        exact absurd answered (Bool.eq_false_iff.mp failure)
    | cons first before =>
        cases split
        rw [List.append_cons]
        exact later.stops before failed after rfl failure
  only rejection rejected failure := by
    obtain ⟨before, last, split, rejects⟩ :=
      later.only rejection rejected failure
    refine ⟨call :: before, last, congrArg (List.cons call) split, ?_⟩
    rw [List.append_cons]
    exact rejects

end FailsClosed

namespace Inquiry

variable {α β : Type} {allowed wider : Question → Prop}
  {earlier more : List Call}

/-- The inquiry asks nothing more and comes to the value. -/
inductive Concludes (value : α) : Inquiry α → Prop where
  | done : Concludes value (done value)
  | log {event : Event} {rest : Inquiry α} :
      Concludes value rest → Concludes value (log event rest)

theorem Concludes.bind {value : α} {result : β} {inquiry : Inquiry α}
    {next : α → Inquiry β} (first : Concludes value inquiry)
    (second : Concludes result (next value)) :
    Concludes result (inquiry >>= next) := by
  induction first with
  | done => exact second
  | log _ rest => exact .log rest

theorem Concludes.run {σ : Type} {value : α} {inquiry : Inquiry α}
    (concludes : Concludes value inquiry) (respond : Responder σ) (state : σ) :
    (inquiry.run respond state).value = value ∧
      Entry.calls (inquiry.run respond state).transcript = [] := by
  induction concludes with
  | done => exact ⟨rfl, rfl⟩
  | log _ rest => exact rest

theorem Concludes.asks {value : α} {inquiry : Inquiry α}
    (concludes : Concludes value inquiry) : inquiry.Asks allowed := by
  induction concludes with
  | done => exact .done value
  | log _ rest => exact .log rest

/-- Whatever the answers are, the inquiry asks allowed questions only, ends at
the first failure with a rejection the failed call amounts to after the earlier
calls, and passes on no failure otherwise. -/
inductive HeedsFailures (allowed : Question → Prop) :
    List Call → Inquiry (Except Rejection α) → Prop where
  | done {earlier : List Call} {value : Except Rejection α} :
      passesFailureOn value = false →
      HeedsFailures allowed earlier (done value)
  | log {earlier : List Call} {event : Event}
      {rest : Inquiry (Except Rejection α)} :
      HeedsFailures allowed earlier rest →
      HeedsFailures allowed earlier (log event rest)
  | ask {earlier : List Call} {question : Question}
      {next : question.Answer → Inquiry (Except Rejection α)} :
      allowed question →
      (∀ answer, Call.isAnswered ⟨question, answer⟩ = true →
        HeedsFailures allowed (earlier ++ [⟨question, answer⟩])
          (next answer)) →
      (∀ answer, Call.isAnswered ⟨question, answer⟩ = false →
        ∃ rejection, Call.Rejects earlier ⟨question, answer⟩ rejection ∧
          Concludes (.error rejection) (next answer)) →
      HeedsFailures allowed earlier (ask question next)

namespace HeedsFailures

theorem of_concludes {value : Except Rejection α}
    {inquiry : Inquiry (Except Rejection α)}
    (concludes : Concludes value inquiry)
    (unfailed : passesFailureOn value = false) :
    HeedsFailures allowed earlier inquiry := by
  induction concludes with
  | done => exact .done unfailed
  | log _ rest => exact .log rest

/-- More questions may be allowed, and more calls may have been made before. -/
theorem mono {inquiry : Inquiry (Except Rejection α)}
    (heeds : HeedsFailures allowed earlier inquiry)
    (widened : ∀ question, allowed question → wider question)
    (included : earlier ⊆ more) : HeedsFailures wider more inquiry := by
  induction heeds generalizing more with
  | done unfailed => exact .done unfailed
  | log _ rest => exact .log (rest included)
  | ask permitted _ failed answered =>
      refine .ask (widened _ permitted) ?_ ?_
      · intro answer success
        exact answered answer success
          (List.append_subset.mpr ⟨List.subset_append_of_subset_left _ included,
            List.subset_append_right _ _⟩)
      · intro answer failure
        obtain ⟨rejection, rejects, concludes⟩ := failed answer failure
        exact ⟨rejection, rejects.of_subset included, concludes⟩

theorem after {inquiry : Inquiry (Except Rejection α)}
    (heeds : HeedsFailures allowed earlier inquiry) (later : List Call) :
    HeedsFailures allowed (earlier ++ later) inquiry :=
  heeds.mono (fun _ => id) (List.subset_append_left _ _)

/-- What follows an inquiry must leave its rejections as they are. -/
theorem bind {inquiry : Inquiry (Except Rejection α)}
    {next : Except Rejection α → Inquiry (Except Rejection β)}
    (first : HeedsFailures allowed earlier inquiry)
    (second : ∀ value, HeedsFailures allowed earlier (next (.ok value)))
    (rejected : ∀ rejection,
      Concludes (.error rejection) (next (.error rejection))) :
    HeedsFailures allowed earlier (inquiry >>= next) := by
  induction first with
  | @done _ value unfailed =>
      cases value with
      | ok value => exact second value
      | error rejection => exact of_concludes (rejected rejection) unfailed
  | log _ rest => exact .log (rest second)
  | ask permitted _ failed answered =>
      refine .ask permitted ?_ ?_
      · intro answer success
        exact answered answer success fun value => (second value).after _
      · -- No value comes out of a failure, so what follows gets a rejection.
        intro answer failure
        obtain ⟨rejection, rejects, concludes⟩ := failed answer failure
        exact ⟨rejection, rejects, concludes.bind (rejected rejection)⟩

theorem asks {inquiry : Inquiry (Except Rejection α)}
    (heeds : HeedsFailures allowed earlier inquiry) : inquiry.Asks allowed := by
  induction heeds with
  | done _ => exact .done _
  | log _ rest => exact .log rest
  | @ask _ question _ permitted _ failed answered =>
      refine .ask permitted fun answer => ?_
      cases success : Call.isAnswered ⟨question, answer⟩ with
      | true => exact answered answer success
      | false =>
          obtain ⟨_, _, concludes⟩ := failed answer success
          exact concludes.asks

theorem failsClosed {σ : Type} {inquiry : Inquiry (Except Rejection α)}
    (heeds : HeedsFailures allowed earlier inquiry) (respond : Responder σ)
    (state : σ) :
    FailsClosed earlier (Entry.calls (inquiry.run respond state).transcript)
      (inquiry.run respond state).value := by
  induction heeds generalizing state with
  | done unfailed => exact .nil unfailed
  | log _ rest => exact rest state
  | @ask _ question next _ _ failed answered =>
      rw [calls_run_ask, value_run_ask]
      cases success : Call.isAnswered
          ⟨question, (respond question state).answer⟩ with
      | true => exact .cons success (answered _ success _)
      | false =>
          -- Nothing is asked after a failure, so this call is the last one.
          obtain ⟨rejection, rejects, concludes⟩ := failed _ success
          obtain ⟨value, none⟩ :=
            concludes.run respond (respond question state).state
          rw [value, none]
          exact .singleton rejects

end HeedsFailures

end Inquiry

namespace Decision

variable {α β : Type} {allowed : Question → Prop} {earlier : List Call}

def HeedsFailures (allowed : Question → Prop) (earlier : List Call)
    (decision : Decision α) : Prop :=
  decision.run.HeedsFailures allowed earlier

theorem heeds_pure (value : α) : HeedsFailures allowed earlier (pure value) :=
  Inquiry.HeedsFailures.done rfl

theorem heeds_throw {rejection : Rejection}
    (unfailed : rejection.isFailure = false) :
    HeedsFailures allowed earlier (throw rejection : Decision α) :=
  Inquiry.HeedsFailures.done unfailed

theorem heeds_report (event : Event) :
    HeedsFailures allowed earlier (report event) :=
  Inquiry.HeedsFailures.log (Inquiry.HeedsFailures.done rfl)

theorem heeds_bind {decision : Decision α} {next : α → Decision β}
    (first : HeedsFailures allowed earlier decision)
    (second : ∀ value, HeedsFailures allowed earlier (next value)) :
    HeedsFailures allowed earlier (decision >>= next) :=
  Inquiry.HeedsFailures.bind first second fun _ => .done

end Decision

/-- Whether a question concerns rights: grants, objects and schemas, but not
the registrations of aggregates and not the loader. -/
def Question.concernsRights : Question → Bool
  | .lookup _ (.grant _ _) | .lookup _ (.object _) | .lookup _ (.schema _) => true
  | .lookup _ (.registration _) | .load _ | .arguments _ _ => false

/-- Whether a question is one for the loader, or is asked in a transaction. -/
def Question.MadeIn (txn : TxnId) : Question → Prop
  | .lookup other _ => other = txn
  | .load _ | .arguments _ _ => True

namespace Registration

variable {β : Type} {allowed : Question → Prop} {earlier : List Call}
  {registration : Registration}

/-- A failure of the loader is logged and then passed on. -/
theorem concludes_loaded_error {α : Type} (registration : Registration)
    (error : LoadError) (next : α → Decision β) :
    Inquiry.Concludes (.error (registration.loadFailure error))
      (registration.loaded (.error error) >>= next).run :=
  .log .done

theorem heeds_load (found : Registered earlier registration)
    {next : Handle → Decision β}
    (permitted : allowed (.load registration.implementation))
    (loaded : ∀ handle, (next handle).HeedsFailures allowed earlier) :
    (Decision.query (.load registration.implementation) >>= fun answer =>
      registration.loaded answer >>= next).HeedsFailures allowed earlier := by
  refine .ask permitted ?_ ?_
  · intro answer success
    cases answer with
    | ok handle => exact Inquiry.HeedsFailures.after (loaded handle) _
    | error error => simp [Call.isAnswered] at success
  · intro answer failure
    cases answer with
    | ok handle => simp [Call.isAnswered] at failure
    | error error =>
        exact ⟨_, .unloaded found .load,
          registration.concludes_loaded_error error next⟩

theorem heeds_arguments (found : Registered earlier registration)
    {handle : Handle} {next : Option TypeArguments → Decision β}
    (permitted : allowed (.arguments handle .aggregator))
    (inspected : ∀ supplied, (next supplied).HeedsFailures allowed earlier) :
    (Decision.query (.arguments handle .aggregator) >>= fun answer =>
      registration.loaded answer >>= next).HeedsFailures allowed earlier := by
  refine .ask permitted ?_ ?_
  · intro answer success
    cases answer with
    | ok supplied => exact Inquiry.HeedsFailures.after (inspected supplied) _
    | error error => simp [Call.isAnswered] at success
  · intro answer failure
    cases answer with
    | ok supplied => simp [Call.isAnswered] at failure
    | error error =>
        exact ⟨_, .unloaded found (.arguments handle),
          registration.concludes_loaded_error error next⟩

theorem judge_passes_no_failure_on (registration : Registration)
    (supplied : Option TypeArguments) (operand : DataType) :
    passesFailureOn (registration.judge supplied operand) = false := by
  unfold judge
  split
  · rfl
  · dsimp only
    split
    · rfl
    · split <;> rfl

theorem heeds_bind (found : Registered earlier registration)
    (operand : DataType)
    (permitted : ∀ question, question.isForLoader = true → allowed question) :
    (registration.bind operand).HeedsFailures allowed earlier := by
  refine heeds_load found (permitted _ rfl) fun handle => ?_
  refine heeds_arguments found (permitted _ rfl) fun supplied => ?_
  have unfailed := registration.judge_passes_no_failure_on supplied operand
  split
  · rename_i rejection judged
    rw [judged] at unfailed
    exact Decision.heeds_throw unfailed
  · exact Decision.heeds_bind (Decision.heeds_report _) fun _ =>
      Decision.heeds_pure _

/-- Whatever was called before, a binding asks the loader only. -/
theorem asks_bind (registration : Registration) (operand : DataType)
    (permitted : ∀ question, question.isForLoader = true → allowed question) :
    (registration.bind operand).Asks allowed := by
  have found : Registered [registration.foundBy ⟨0⟩ registration.id]
      registration := ⟨_, _, List.mem_singleton_self _⟩
  exact (heeds_bind found operand permitted).asks

end Registration

namespace Statement

variable (statement : Statement) {allowed : Question → Prop}
  {earlier : List Call}

/-- What follows a look-up is told the row and, with it, that the look-up found
this row. -/
theorem heeds_lookup_bind {β : Type} {wanted : Lookup}
    {next : Option wanted.Row → Decision β}
    (permitted : allowed (.lookup statement.txn wanted))
    (answered : ∀ row, (next row).HeedsFailures allowed
      (earlier ++ [⟨.lookup statement.txn wanted, .ok row⟩])) :
    (statement.lookup wanted >>= next).HeedsFailures allowed earlier := by
  refine .ask permitted ?_ ?_
  · intro answer success
    cases answer with
    | ok row => exact answered row
    | error error => simp [Call.isAnswered] at success
  · intro answer failure
    cases answer with
    | ok row => simp [Call.isAnswered] at failure
    | error error => exact ⟨_, .unread error, .done⟩

theorem heeds_lookup {wanted : Lookup}
    (permitted : allowed (.lookup statement.txn wanted)) :
    (statement.lookup wanted).HeedsFailures allowed earlier := by
  rw [← bind_pure (statement.lookup wanted)]
  exact statement.heeds_lookup_bind permitted fun row => Decision.heeds_pure row

/-- The questions on rights that a statement asks in its own transaction. -/
def asksOnRights (question : Question) : Prop :=
  question.concernsRights = true ∧ question.MadeIn statement.txn

theorem heeds_applicableGrants (object : ObjectId) :
    (statement.applicableGrants object).HeedsFailures
      statement.asksOnRights earlier := by
  refine Decision.heeds_bind (statement.heeds_lookup ⟨rfl, rfl⟩) fun own => ?_
  split
  · exact Decision.heeds_bind (statement.heeds_lookup ⟨rfl, rfl⟩) fun _ =>
      Decision.heeds_pure _
  · exact Decision.heeds_bind (Decision.heeds_pure none) fun _ =>
      Decision.heeds_pure _

theorem heeds_deny (row : ObjectRow) (mode : Access)
    (missing : Option (List String)) (forGrant : Bool)
    (permitted : allowed (.lookup statement.txn (.schema row.schema))) :
    (statement.deny row mode missing forGrant).HeedsFailures allowed
      earlier := by
  refine Decision.heeds_bind (statement.heeds_lookup permitted) fun schema => ?_
  cases schema with
  | none => exact Decision.heeds_throw rfl
  | some schema => exact Decision.heeds_throw rfl

theorem heeds_decideAccess (object : ObjectId) (mode : Access)
    (forGrant : Bool) :
    (statement.decideAccess object mode forGrant).HeedsFailures
      statement.asksOnRights earlier := by
  refine Decision.heeds_bind (statement.heeds_lookup ⟨rfl, rfl⟩) fun found => ?_
  split
  · exact Decision.heeds_throw rfl
  · split
    · exact Decision.heeds_report _
    · refine Decision.heeds_bind (statement.heeds_applicableGrants object) ?_
      intro grants
      split
      · exact Decision.heeds_pure ()
      · exact statement.heeds_deny _ mode _ forGrant ⟨rfl, rfl⟩

theorem heeds_decideOwnership (schema : SchemaId) (forGrant : Bool)
    (permitted : allowed (.lookup statement.txn (.schema schema))) :
    (statement.decideOwnership schema forGrant).HeedsFailures allowed
      earlier := by
  refine Decision.heeds_bind (statement.heeds_lookup permitted) fun found => ?_
  cases found with
  | none => exact Decision.heeds_throw rfl
  | some row =>
      dsimp only
      split
      · exact Decision.heeds_pure ()
      · exact Decision.heeds_throw rfl

theorem heeds_check (requirement : Requirement) (forGrant : Bool) :
    (statement.check requirement forGrant).HeedsFailures
      statement.asksOnRights earlier := by
  have decided : (statement.decision requirement forGrant).HeedsFailures
      statement.asksOnRights earlier := by
    cases requirement with
    | access object mode => exact statement.heeds_decideAccess object mode forGrant
    | ownership schema =>
        exact statement.heeds_decideOwnership schema forGrant ⟨rfl, rfl⟩
  exact decided.bind (fun _ => .log (.done rfl)) fun _ => .log .done

/-- A check asks about rights only, in the transaction of the statement. -/
theorem asks_check (requirement : Requirement) (forGrant : Bool) :
    (statement.check requirement forGrant).Asks statement.asksOnRights := by
  have heeds : (statement.check requirement forGrant).HeedsFailures
      statement.asksOnRights [] := statement.heeds_check requirement forGrant
  exact heeds.asks

theorem heeds_checkAll (requirements : List Requirement) (forGrant : Bool) :
    (statement.checkAll requirements forGrant).HeedsFailures
      statement.asksOnRights earlier := by
  induction requirements with
  | nil => exact Decision.heeds_pure ()
  | cons requirement rest induction =>
      exact Decision.heeds_bind (statement.heeds_check requirement forGrant)
        fun _ => induction

/-- What is left of a binding once the check has admitted it. -/
def bindFound (id : ObjectId) (operand : DataType) : Decision Binding := do
  match ← statement.lookup (.registration id) with
  | none => throw (.danglingReference "aggregate" id.val)
  | some registration => registration.bind operand

theorem bindRegistered_eq (id : ObjectId) (operand : DataType) :
    statement.bindRegistered id operand = (do
      statement.check (.access id .execute) false
      statement.bindFound id operand : Decision Binding) :=
  rfl

theorem heeds_bindFound (id : ObjectId) (operand : DataType)
    (registrations : allowed (.lookup statement.txn (.registration id)))
    (loader : ∀ question, question.isForLoader = true → allowed question) :
    (statement.bindFound id operand).HeedsFailures allowed earlier := by
  refine statement.heeds_lookup_bind registrations fun found => ?_
  cases found with
  | none => exact Decision.heeds_throw rfl
  | some registration =>
      -- The look-up is the call that was made last.
      have foundLast : Registered
          (earlier ++ [registration.foundBy statement.txn id]) registration :=
        ⟨_, _, List.mem_concat_self⟩
      exact Registration.heeds_bind foundLast operand loader

theorem heeds_bindRegistered (id : ObjectId) (operand : DataType) :
    (statement.bindRegistered id operand).HeedsFailures
      (Question.MadeIn statement.txn) earlier := by
  have checked := (statement.heeds_check (.access id .execute) false).mono
    (fun _ => And.right) (List.Subset.refl earlier)
  rw [bindRegistered_eq]
  refine Decision.heeds_bind checked fun _ => ?_
  refine statement.heeds_bindFound id operand rfl ?_
  intro question isForLoader
  cases question with
  | lookup => simp [Question.isForLoader] at isForLoader
  | load | arguments => trivial

end Statement

end SqlAdmission
