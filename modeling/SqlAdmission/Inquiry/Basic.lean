import SqlAdmission.Event
import SqlAdmission.Inquiry.Question
import SqlAdmission.Rejection

/-!
# Inquiries

An inquiry is a computation that asks questions and logs events on the way to
its value.  It says nothing on who answers, so it can be run against any
dictionary and loader, also one that fails or changes between two questions.
A decision is an inquiry that ends in a value or a rejection.
-/

namespace SqlAdmission

/-- A computation that asks questions and logs events. -/
inductive Inquiry (α : Type) : Type where
  | done (value : α)
  | log (event : Event) (rest : Inquiry α)
  | ask (question : Question) (next : question.Answer → Inquiry α)

namespace Inquiry

variable {α β γ : Type}

/-- Continue an inquiry from its value. -/
def bind : Inquiry α → (α → Inquiry β) → Inquiry β
  | done value, next => next value
  | log event rest, next => log event (rest.bind next)
  | ask question answered, next => ask question fun answer => (answered answer).bind next

instance : Monad Inquiry where
  pure := done
  bind := bind

def report (event : Event) : Inquiry Unit :=
  log event (done ())

def query (question : Question) : Inquiry question.Answer :=
  ask question done

@[simp] theorem done_bind (value : α) (next : α → Inquiry β) :
    (done value >>= next) = next value := rfl

@[simp] theorem log_bind (event : Event) (rest : Inquiry α) (next : α → Inquiry β) :
    (log event rest >>= next) = log event (rest >>= next) := rfl

@[simp] theorem ask_bind (question : Question) (answered : question.Answer → Inquiry α)
    (next : α → Inquiry β) :
    (ask question answered >>= next) = ask question fun answer => answered answer >>= next := rfl

theorem pure_eq_done (value : α) : (pure value : Inquiry α) = done value := rfl

theorem bind_done (inquiry : Inquiry α) : (inquiry >>= done) = inquiry := by
  induction inquiry with
  | done value => rfl
  | log event rest induction => rw [log_bind, induction]
  | ask question answered induction =>
    rw [ask_bind]
    exact congrArg (ask question) (funext induction)

theorem bind_assoc (inquiry : Inquiry α) (first : α → Inquiry β) (second : β → Inquiry γ) :
    (inquiry >>= first >>= second) = inquiry >>= fun value => first value >>= second := by
  induction inquiry with
  | done value => rfl
  | log event rest induction => rw [log_bind, log_bind, log_bind, induction]
  | ask question answered induction =>
    rw [ask_bind, ask_bind, ask_bind]
    exact congrArg (ask question) (funext induction)

instance : LawfulMonad Inquiry :=
  LawfulMonad.mk' Inquiry bind_done (fun _ _ => rfl) bind_assoc

end Inquiry

/-- An inquiry that ends in a value or a rejection. -/
abbrev Decision := ExceptT Rejection Inquiry

namespace Decision

def report (event : Event) : Decision Unit :=
  ExceptT.lift (Inquiry.report event)

def query (question : Question) : Decision question.Answer :=
  ExceptT.lift (Inquiry.query question)

end Decision

end SqlAdmission
