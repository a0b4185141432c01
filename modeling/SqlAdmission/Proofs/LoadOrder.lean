import SqlAdmission.Proofs.AggregateBinding
import SqlAdmission.Proofs.FailedCalls

/-!
# No loading before authorization

The check of a requirement reads grants, objects and schemas only.  Binding a
user-defined aggregate makes the calls of the check first and, if it admits,
looks up the registration, loads the artifact registered and inspects what was
loaded, each only once the call before it has succeeded.  This holds against
any dictionary and loader, also ones that fail or change between two calls.
-/

namespace SqlAdmission

/-- The calls that follow the admission of an aggregate: its registration is
looked up; if there is one, the artifact it names is loaded; if that succeeds,
the loaded artifact is inspected for the aggregator contract. -/
inductive BindingCalls (txn : TxnId) (id : ObjectId) : List Call → Prop where
  | unregistered {answer : Except CatalogError (Option Registration)}
      (absent : ∀ registration, answer ≠ .ok (some registration)) :
      BindingCalls txn id [⟨.lookup txn (.registration id), answer⟩]
  | unloaded {registration : Registration} {error : LoadError} :
      BindingCalls txn id
        [⟨.lookup txn (.registration id), .ok (some registration)⟩,
          ⟨.load registration.implementation, .error error⟩]
  | inspected {registration : Registration} {handle : Handle}
      {answer : Except LoadError (Option TypeArguments)} :
      BindingCalls txn id
        [⟨.lookup txn (.registration id), .ok (some registration)⟩,
          ⟨.load registration.implementation, .ok handle⟩,
          ⟨.arguments handle .aggregator, answer⟩]

section Played

variable {σ : Type} (respond : Responder σ) (state : σ)

theorem Registration.calls_loaded_bind {α β : Type}
    (registration : Registration) (answer : Except LoadError α)
    (next : α → Decision β) :
    Entry.calls
        ((registration.loaded answer >>= next).play respond state).transcript =
      match answer with
      | .ok value => Entry.calls ((next value).play respond state).transcript
      | .error _ => [] := by
  cases answer with
  | ok value => rfl
  | error error => rfl

/-- Binding a registration loads the artifact it names, inspects what was
loaded, and asks nothing else, whatever the type of the operand is. -/
theorem Registration.calls_bind (registration : Registration)
    (operand : DataType) :
    Entry.calls ((registration.bind operand).play respond state).transcript =
      let load := respond (.load registration.implementation) state
      ⟨.load registration.implementation, load.answer⟩ ::
        match load.answer with
        | .error _ => []
        | .ok handle =>
          [⟨.arguments handle .aggregator,
            (respond (.arguments handle .aggregator) load.state).answer⟩] := by
  unfold bind
  rw [Decision.calls_query_bind, calls_loaded_bind]
  dsimp only
  rw [List.cons.injEq]
  refine ⟨rfl, ?_⟩
  cases (respond (.load registration.implementation) state).answer with
  | error error => rfl
  | ok handle =>
      dsimp only
      rw [Decision.calls_query_bind, calls_loaded_bind, List.cons.injEq]
      refine ⟨rfl, ?_⟩
      split
      · split <;> rfl
      · rfl

theorem Statement.calls_lookup_bind {β : Type} (statement : Statement)
    (wanted : Lookup) (next : Option wanted.Row → Decision β) :
    Entry.calls
        ((statement.lookup wanted >>= next).play respond state).transcript =
      ⟨.lookup statement.txn wanted,
          (respond (.lookup statement.txn wanted) state).answer⟩ ::
        match (respond (.lookup statement.txn wanted) state).answer with
        | .ok row =>
          Entry.calls ((next row).play respond
            (respond (.lookup statement.txn wanted) state).state).transcript
        | .error _ => [] := by
  unfold lookup
  rw [bind_assoc, Decision.calls_query_bind]
  cases (respond (.lookup statement.txn wanted) state).answer with
  | ok row => rfl
  | error error => rfl

theorem Statement.calls_bindFound (statement : Statement) (id : ObjectId)
    (operand : DataType) :
    BindingCalls statement.txn id
      (Entry.calls ((statement.bindFound id operand).play respond
        state).transcript) := by
  unfold bindFound
  rw [calls_lookup_bind]
  cases (respond (.lookup statement.txn (.registration id)) state).answer with
  | error error => exact .unregistered (by simp)
  | ok row =>
      cases row with
      | none => exact .unregistered (by simp)
      | some registration =>
          dsimp only
          rw [registration.calls_bind]
          dsimp only
          split
          · rename_i error failed
            rw [failed]
            exact .unloaded
          · rename_i handle loaded
            rw [loaded]
            exact .inspected

/-- A built-in aggregate is bound without any call.  For a registered one, a
check that rejects is the outcome of the binding, and its calls are all there
are; a check that admits is followed by the calls of the binding proper. -/
theorem Statement.calls_bindCall (statement : Statement) (operand : DataType) :
    (∀ aggregate, Entry.calls ((statement.bindCall (.builtin aggregate)
      operand).play respond state).transcript = []) ∧
    ∀ id,
      let checked :=
        (statement.check (.access id .execute) false).play respond state
      let bound := (statement.bindRegistered id operand).play respond state
      (statement.bindCall (.registered id) operand).play respond state = bound ∧
        (∀ call ∈ Entry.calls checked.transcript,
          call.question.concernsRights = true) ∧
        match checked.value with
        | .error rejection =>
          bound.value = .error rejection ∧
            Entry.calls bound.transcript = Entry.calls checked.transcript
        | .ok () =>
          ∃ after, BindingCalls statement.txn id after ∧
            Entry.calls bound.transcript =
              Entry.calls checked.transcript ++ after := by
  refine ⟨fun aggregate => rfl, fun id => ?_⟩
  intro checked bound
  have composed : bound = (do
      statement.check (.access id .execute) false
      statement.bindFound id operand : Decision Binding).play respond state :=
    rfl
  refine ⟨rfl, ?_, ?_⟩
  · intro call member
    exact ((asks_check statement (.access id .execute) false).of_mem_calls
      respond state member).1
  · cases verdict : checked.value with
    | error rejection =>
        rw [composed, Decision.play_bind_of_error respond state verdict]
        exact ⟨rfl, rfl⟩
    | ok passed =>
        refine ⟨_, statement.calls_bindFound respond checked.state id operand,
          ?_⟩
        rw [composed, Decision.play_bind_of_ok respond state verdict]
        exact Entry.calls_append _ _

/-- Someone who may not execute an aggregate has nothing of it loaded; someone
who may has the artifact inspected that is deployed now. -/
example :
    let asked (user : String) : List Question :=
      let statement : Statement := { txn := ⟨1⟩, user }
      let outcome := (statement.bindCall (.registered ⟨2⟩) .int).play
        Stores.responder
        ⟨Catalog.empty.run spreadDeclared,
          ArtifactStore.empty.run spreadDeployed⟩
      (Entry.calls outcome.transcript).map Call.question
    let lookup := Question.lookup ⟨1⟩
    asked "stranger" =
        [lookup (.object ⟨2⟩), lookup (.grant ⟨2⟩ "stranger"),
          lookup (.grant ⟨2⟩ "PUBLIC"), lookup (.schema ⟨1⟩)] ∧
      asked "clerk" =
        [lookup (.object ⟨2⟩), lookup (.grant ⟨2⟩ "clerk"),
          lookup (.grant ⟨2⟩ "PUBLIC"), lookup (.registration ⟨2⟩),
          .load "stats.Spread", .arguments ⟨"stats.Spread", 2⟩ .aggregator] :=
  ⟨rfl, rfl⟩

end Played

end SqlAdmission
