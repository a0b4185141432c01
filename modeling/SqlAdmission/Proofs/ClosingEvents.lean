import SqlAdmission.Inquiry.Run

/-!
# Events at the end

An inquiry that logs at its end only tells by its events what it came to.  Such
inquiries can be put in a row as long as each one before the last logs nothing
on the way to its value; a decision that is rejected goes no further, so what it
has logged by then is all.
-/

namespace SqlAdmission

namespace Entry

/-- All that was logged stands at the end, after the last question. -/
def EndsLogging (transcript : List Entry) (events : List Event) : Prop :=
  ∃ asked, reports asked = [] ∧ transcript = asked ++ events.map .logged

theorem reports_map_logged (events : List Event) :
    reports (events.map .logged) = events := by
  induction events with
  | nil => rfl
  | cons event rest induction => exact congrArg (List.cons event) induction

namespace EndsLogging

variable {transcript : List Entry} {events : List Event}

theorem reports_eq (ends : EndsLogging transcript events) :
    reports transcript = events := by
  obtain ⟨asked, quiet, rfl⟩ := ends
  rw [reports_append, quiet, reports_map_logged, List.nil_append]

theorem map_logged (events : List Event) :
    EndsLogging (events.map .logged) events :=
  ⟨[], rfl, rfl⟩

theorem asked (ends : EndsLogging transcript events) (question : Question)
    (answer : question.Answer) (meanwhile : List Event) :
    EndsLogging (.asked question answer meanwhile :: transcript) events := by
  obtain ⟨earlier, quiet, rfl⟩ := ends
  exact ⟨.asked question answer meanwhile :: earlier, quiet, rfl⟩

theorem suffix (ends : EndsLogging transcript events) :
    events.map .logged <:+ transcript := by
  obtain ⟨earlier, _, rfl⟩ := ends
  exact List.suffix_append earlier _

end EndsLogging

end Entry

namespace Inquiry

variable {α β : Type}

/-- The inquiry asks nothing more, logs the events and comes to the value. -/
inductive Closes (value : α) : List Event → Inquiry α → Prop where
  | done : Closes value [] (done value)
  | log {event : Event} {later : List Event} {rest : Inquiry α} :
      Closes value later rest → Closes value (event :: later) (log event rest)

namespace Closes

variable {value : α} {events : List Event} {inquiry : Inquiry α}

theorem bind {result : β} {later : List Event} {next : α → Inquiry β}
    (first : Closes value events inquiry)
    (second : Closes result later (next value)) :
    Closes result (events ++ later) (inquiry >>= next) := by
  induction first with
  | done => exact second
  | log _ rest => exact .log rest

theorem run {σ : Type} (closes : Closes value events inquiry)
    (respond : Responder σ) (state : σ) :
    (inquiry.run respond state).value = value ∧
      (inquiry.run respond state).transcript = events.map .logged := by
  induction closes with
  | done => exact ⟨rfl, rfl⟩
  | @log event _ _ _ rest =>
      exact ⟨rest.1, congrArg (List.cons (Entry.logged event)) rest.2⟩

end Closes

/-- Whatever the answers are, the inquiry logs after its last question only, and
what it logs fits the value it comes to. -/
inductive LogsLast (fits : α → List Event → Prop) : Inquiry α → Prop where
  | closes {value : α} {events : List Event} {inquiry : Inquiry α} :
      fits value events → Closes value events inquiry → LogsLast fits inquiry
  | ask {question : Question} {next : question.Answer → Inquiry α} :
      (∀ answer, LogsLast fits (next answer)) →
      LogsLast fits (ask question next)

namespace LogsLast

variable {fits : α → List Event → Prop} {inquiry : Inquiry α}

/-- An inquiry may be followed by questions if it has logged nothing, and else
by events only. -/
theorem bind {whole : β → List Event → Prop} {next : α → Inquiry β}
    (first : LogsLast fits inquiry)
    (second : ∀ value events, fits value events →
      (events = [] ∧ LogsLast whole (next value)) ∨
        ∃ result later, Closes result later (next value) ∧
          whole result (events ++ later)) :
    LogsLast whole (inquiry >>= next) := by
  induction first with
  | closes fit closes =>
      rcases second _ _ fit with
        ⟨rfl, logs⟩ | ⟨result, later, closing, fitting⟩
      · -- Without an event there is nothing but the value.
        cases closes
        exact logs
      · exact .closes fitting (closes.bind closing)
  | ask _ answered => exact .ask answered

theorem run {σ : Type} (logs : LogsLast fits inquiry) (respond : Responder σ)
    (state : σ) :
    ∃ events, fits (inquiry.run respond state).value events ∧
      Entry.EndsLogging (inquiry.run respond state).transcript events := by
  induction logs generalizing state with
  | closes fit closes =>
      obtain ⟨value, transcript⟩ := closes.run respond state
      rw [value, transcript]
      exact ⟨_, fit, .map_logged _⟩
  | @ask question next _ answered =>
      obtain ⟨events, fit, ends⟩ := answered (respond question state).answer
        (respond question state).state
      exact ⟨events, fit, ends.asked question _ _⟩

end LogsLast

end Inquiry

namespace Decision

variable {α β : Type}

/-- Whatever the answers are, the decision logs after its last question only,
and what it logs fits what it comes to. -/
def LogsLast (fits : Except Rejection α → List Event → Prop)
    (decision : Decision α) : Prop :=
  decision.run.LogsLast fits

/-- What may come before the rest of a decision: nothing is logged on the way to
a value, and a rejection is that of the whole. -/
def Leading (fits : Except Rejection β → List Event → Prop) :
    Except Rejection α → List Event → Prop
  | .ok _, events => events = []
  | .error rejection, events => fits (.error rejection) events

variable {fits : Except Rejection β → List Event → Prop}

theorem logs_pure {value : β} (fit : fits (.ok value) []) :
    LogsLast fits (pure value) :=
  .closes fit .done

theorem logs_throw {rejection : Rejection} (fit : fits (.error rejection) []) :
    LogsLast fits (throw rejection) :=
  .closes fit .done

theorem logs_bind {decision : Decision α} {next : α → Decision β}
    (first : decision.LogsLast (Leading fits))
    (second : ∀ value, (next value).LogsLast fits) :
    LogsLast fits (decision >>= next) := by
  refine Inquiry.LogsLast.bind first ?_
  intro value events leading
  cases value with
  | ok value => exact .inl ⟨leading, second value⟩
  | error rejection =>
      refine .inr ⟨.error rejection, [], .done, ?_⟩
      rw [List.append_nil]
      exact leading

end Decision

end SqlAdmission
