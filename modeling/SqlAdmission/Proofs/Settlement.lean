import SqlAdmission.Inquiry.Stores

/-!
# Settled decisions

A decision settles on a value as soon as every answer depends on its question
alone.  The value of a composed decision is found step by step, and the events
on the way do not matter.  Stores are such a responder, since being asked does
not change them.
-/

namespace SqlAdmission

namespace Inquiry

variable {α β : Type}

theorem eval_bind
    (answers : (question : Question) → question.Answer)
    (inquiry : Inquiry α) (next : α → Inquiry β) :
    (inquiry >>= next).eval answers =
      (next (inquiry.eval answers)).eval answers := by
  simp only [eval, run_bind]

end Inquiry

namespace Decision

variable {α β : Type} {answers : (question : Question) → question.Answer}

/-- What a decision comes to when an answer depends on its question alone. -/
def settle (answers : (question : Question) → question.Answer)
    (decision : Decision α) : Except Rejection α :=
  decision.run.eval answers

@[simp] theorem settle_pure (value : α) :
    settle answers (pure value) = .ok value := rfl

@[simp] theorem settle_throw (rejection : Rejection) :
    settle answers (throw rejection : Decision α) = .error rejection := rfl

@[simp] theorem settle_report (event : Event) :
    settle answers (report event) = .ok () := rfl

theorem settle_query_bind (question : Question)
    (next : question.Answer → Decision α) :
    settle answers (query question >>= next) =
      settle answers (next (answers question)) := rfl

@[simp] theorem settle_bind
    (decision : Decision α) (next : α → Decision β) :
    settle answers (decision >>= next) =
      (settle answers decision).bind fun value =>
        settle answers (next value) := by
  have unfolded :
      settle answers (decision >>= next) =
        (ExceptT.bindCont next (settle answers decision)).eval answers :=
    Inquiry.eval_bind answers decision.run _
  rw [unfolded]
  cases settle answers decision with
  | ok value => rfl
  | error rejection => rfl

@[simp] theorem settle_map (function : α → β) (decision : Decision α) :
    settle answers (function <$> decision) =
      (settle answers decision).map function := by
  rw [map_eq_pure_bind, settle_bind]
  cases settle answers decision with
  | ok value => rfl
  | error rejection => rfl

end Decision

namespace Stores

variable {α : Type}

/-- What a decision comes to when the stores answer it. -/
def settle (stores : Stores) (decision : Decision α) : Except Rejection α :=
  (decision.run.run responder stores).value

theorem value_run_responder (stores : Stores) (inquiry : Inquiry α) :
    (inquiry.run responder stores).value = inquiry.eval stores.answer := by
  induction inquiry with
  | done value => rfl
  | log event rest induction => exact induction
  | ask question next induction => exact induction (stores.answer question)

theorem settle_eq (stores : Stores) (decision : Decision α) :
    stores.settle decision = decision.settle stores.answer :=
  value_run_responder stores decision.run

end Stores

end SqlAdmission
