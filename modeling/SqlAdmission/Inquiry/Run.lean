import SqlAdmission.Inquiry.Basic

/-!
# Running an inquiry

A responder answers questions from a state that every answer may change, and
may log events of its own meanwhile.  Running an inquiry gives its value, the
final state and a transcript, which lists the questions with their answers and
the events that were logged, in order.  The transcript of two inquiries in a
row is the one of the first followed by the one of the second.
-/

namespace SqlAdmission

/-- An answer, the state after it, and the events logged meanwhile. -/
structure Reply (σ answer : Type) where
  answer : answer
  state : σ
  events : List Event := []

/-- Whoever answers questions, from a state. -/
abbrev Responder (σ : Type) := (question : Question) → σ → Reply σ question.Answer

/-- The responder without a state whose answer depends on the question only. -/
def Responder.ofAnswers (answers : (question : Question) → question.Answer) :
    Responder Unit :=
  fun question _ => { answer := answers question, state := () }

/-- One entry of a transcript: a question with its answer and what the
responder logged meanwhile, or an event the inquiry itself logged. -/
inductive Entry where
  | asked (question : Question) (answer : question.Answer) (meanwhile : List Event)
  | logged (event : Event)

def Entry.questions (transcript : List Entry) : List Question :=
  transcript.filterMap fun
    | asked question _ _ => some question
    | logged _ => none

/-- All events of a transcript, whoever logged them. -/
def Entry.events (transcript : List Entry) : List Event :=
  transcript.flatMap fun
    | asked _ _ meanwhile => meanwhile
    | logged event => [event]

/-- The events that the inquiry itself logged. -/
def Entry.reports (transcript : List Entry) : List Event :=
  transcript.filterMap fun
    | asked _ _ _ => none
    | logged event => some event

structure Outcome (σ α : Type) where
  value : α
  state : σ
  transcript : List Entry

namespace Inquiry

variable {σ α β : Type}

def run (respond : Responder σ) : Inquiry α → σ → Outcome σ α
  | done value, state => ⟨value, state, []⟩
  | log event rest, state =>
    let later := rest.run respond state
    { later with transcript := .logged event :: later.transcript }
  | ask question next, state =>
    let reply := respond question state
    let later := (next reply.answer).run respond reply.state
    { later with
      transcript := .asked question reply.answer reply.events :: later.transcript }

/-- The value of an inquiry when answers depend on the question only. -/
def eval (answers : (question : Question) → question.Answer) (inquiry : Inquiry α) : α :=
  (inquiry.run (.ofAnswers answers) ()).value

@[simp] theorem run_done (respond : Responder σ) (value : α) (state : σ) :
    (done value).run respond state = ⟨value, state, []⟩ := rfl

theorem run_bind (respond : Responder σ) (inquiry : Inquiry α) (next : α → Inquiry β)
    (state : σ) :
    (inquiry >>= next).run respond state =
      let first := inquiry.run respond state
      let second := (next first.value).run respond first.state
      { second with transcript := first.transcript ++ second.transcript } := by
  induction inquiry generalizing state with
  | done value => rfl
  | log event rest induction =>
    rw [log_bind, run, induction]
    rfl
  | ask question answered induction =>
    rw [ask_bind, run, induction]
    rfl

end Inquiry

@[simp] theorem Entry.reports_append (earlier later : List Entry) :
    reports (earlier ++ later) = reports earlier ++ reports later :=
  List.filterMap_append

end SqlAdmission
