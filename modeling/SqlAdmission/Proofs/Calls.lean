import SqlAdmission.Inquiry.Run

/-!
# Calls of a decision

The calls a decision makes are the questions of its transcript with their
answers, in order.  A decision that goes on from another one makes that one's
calls first, and no more once it is rejected.  The answers to its calls tell what
a decision comes to, also beside another run: inquiries that mirror each other
stay together as long as they are answered alike.  `Asks` bounds the questions an
inquiry may ask, whoever answers them.
-/

namespace SqlAdmission

/-- A question with the answer it got. -/
structure Call where
  question : Question
  answer : question.Answer

/-- The calls of a transcript. -/
def Entry.calls (transcript : List Entry) : List Call :=
  transcript.filterMap fun
    | asked question answer _ => some ⟨question, answer⟩
    | logged _ => none

@[simp] theorem Entry.calls_append (earlier later : List Entry) :
    calls (earlier ++ later) = calls earlier ++ calls later :=
  List.filterMap_append

/-- After the same calls, the same question gets the same answer. -/
def AnsweredAlike (left right : List Call) : Prop :=
  ∀ before one other afterOne afterOther,
    left = before ++ one :: afterOne → right = before ++ other :: afterOther →
    one.question = other.question → one = other

namespace AnsweredAlike

variable {left right : List Call} {one other : Call}

theorem head (alike : AnsweredAlike (one :: left) (other :: right))
    (same : one.question = other.question) : one = other :=
  alike [] one other left right rfl rfl same

theorem tail (alike : AnsweredAlike (one :: left) (one :: right)) :
    AnsweredAlike left right := by
  intro before first second afterFirst afterSecond leftSplit rightSplit
  exact alike (one :: before) first second afterFirst afterSecond
    (congrArg (List.cons one) leftSplit) (congrArg (List.cons one) rightSplit)

theorem refl (calls : List Call) : AnsweredAlike calls calls := by
  intro before one other afterOne afterOther split resplit _
  rw [split, List.append_cancel_left_eq, List.cons.injEq] at resplit
  exact resplit.1

theorem cons (alike : AnsweredAlike left right) :
    AnsweredAlike (one :: left) (one :: right) := by
  intro before first second afterFirst afterSecond leftSplit rightSplit same
  cases before with
  | nil =>
      cases leftSplit
      cases rightSplit
      rfl
  | cons _ before =>
      cases leftSplit
      cases rightSplit
      exact alike before first second afterFirst afterSecond rfl rfl same

/-- Calls are answered alike if their questions tell the answers. -/
theorem of_answers {answers : (question : Question) → question.Answer}
    (toLeft : ∀ call ∈ left, call.answer = answers call.question)
    (toRight : ∀ call ∈ right, call.answer = answers call.question) :
    AnsweredAlike left right := by
  rintro before ⟨question, answer⟩ ⟨_, otherAnswer⟩ afterOne afterOther
    rfl rfl rfl
  have first : answer = answers question := toLeft ⟨question, answer⟩ (by simp)
  have second : otherAnswer = answers question :=
    toRight ⟨question, otherAnswer⟩ (by simp)
  rw [first, second]

end AnsweredAlike

namespace Inquiry

variable {α β : Type} {allowed : Question → Prop}

theorem calls_run_ask {σ : Type} (respond : Responder σ) (state : σ)
    (question : Question) (next : question.Answer → Inquiry α) :
    Entry.calls ((ask question next).run respond state).transcript =
      ⟨question, (respond question state).answer⟩ ::
        Entry.calls ((next (respond question state).answer).run respond
          (respond question state).state).transcript :=
  rfl

theorem value_run_ask {σ : Type} (respond : Responder σ) (state : σ)
    (question : Question) (next : question.Answer → Inquiry α) :
    ((ask question next).run respond state).value =
      ((next (respond question state).answer).run respond
        (respond question state).state).value :=
  rfl

/-- Whatever the answers are, every question of the inquiry is allowed. -/
inductive Asks (allowed : Question → Prop) : Inquiry α → Prop where
  | done (value : α) : Asks allowed (done value)
  | log {event : Event} {rest : Inquiry α} :
      Asks allowed rest → Asks allowed (log event rest)
  | ask {question : Question} {next : question.Answer → Inquiry α} :
      allowed question → (∀ answer, Asks allowed (next answer)) →
      Asks allowed (ask question next)

theorem Asks.of_mem_calls {σ : Type} {inquiry : Inquiry α}
    (asks : Asks allowed inquiry) (respond : Responder σ) (state : σ)
    {call : Call}
    (member : call ∈ Entry.calls (inquiry.run respond state).transcript) :
    allowed call.question := by
  induction asks generalizing state with
  | done value => simp [Entry.calls] at member
  | log _ rest => exact rest state member
  | @ask question next permitted _ answered =>
      rcases List.mem_cons.mp member with rfl | later
      · exact permitted
      · exact answered (respond question state).answer _ later

theorem answer_of_mem_calls_ofAnswers
    (answers : (question : Question) → question.Answer) (inquiry : Inquiry α)
    {call : Call}
    (member : call ∈ Entry.calls
      (inquiry.run (.ofAnswers answers) ()).transcript) :
    call.answer = answers call.question := by
  induction inquiry with
  | done value => simp [Entry.calls] at member
  | log event rest induction => exact induction member
  | ask question next induction =>
      rcases List.mem_cons.mp member with rfl | later
      · rfl
      · exact induction (answers question) later

/-- Two inquiries ask the same questions, whatever the answers, and come to
related values.  What they log may differ. -/
inductive Mirrors (related : α → β → Prop) : Inquiry α → Inquiry β → Prop where
  | done {left : α} {right : β} :
      related left right → Mirrors related (done left) (done right)
  | log {event other : Event} {left : Inquiry α} {right : Inquiry β} :
      Mirrors related left right →
      Mirrors related (log event left) (log other right)
  | ask {question : Question} {left : question.Answer → Inquiry α}
      {right : question.Answer → Inquiry β} :
      (∀ answer, Mirrors related (left answer) (right answer)) →
      Mirrors related (ask question left) (ask question right)

namespace Mirrors

theorem refl (inquiry : Inquiry α) : Mirrors (· = ·) inquiry inquiry := by
  induction inquiry with
  | done value => exact .done rfl
  | log event rest induction => exact .log induction
  | ask question next induction => exact .ask induction

theorem bind {γ δ : Type} {related : α → β → Prop} {relatedNext : γ → δ → Prop}
    {left : Inquiry α} {right : Inquiry β} {next : α → Inquiry γ}
    {other : β → Inquiry δ} (first : Mirrors related left right)
    (second : ∀ value mirrored, related value mirrored →
      Mirrors relatedNext (next value) (other mirrored)) :
    Mirrors relatedNext (left >>= next) (right >>= other) := by
  induction first with
  | done values => exact second _ _ values
  | log _ rest => exact .log rest
  | ask _ answered => exact .ask answered

/-- Inquiries that mirror each other make the same calls as long as they are
answered alike, and so come to related values. -/
theorem run {σ τ : Type} {related : α → β → Prop} {left : Inquiry α}
    {right : Inquiry β} (mirrors : Mirrors related left right)
    {respond : Responder σ} {other : Responder τ} {state : σ} {otherState : τ}
    (alike : AnsweredAlike
      (Entry.calls (left.run respond state).transcript)
      (Entry.calls (right.run other otherState).transcript)) :
    related (left.run respond state).value (right.run other otherState).value ∧
      Entry.calls (left.run respond state).transcript =
        Entry.calls (right.run other otherState).transcript := by
  induction mirrors generalizing state otherState with
  | done values => exact ⟨values, rfl⟩
  | log _ induction => exact induction alike
  | @ask question left right _ induction =>
      -- Both ask this first, so both get the same answer and go on as one.
      rw [calls_run_ask, calls_run_ask] at alike
      have same : (respond question state).answer =
          (other question otherState).answer := by
        simpa using alike.head rfl
      rw [same] at alike
      obtain ⟨values, calls⟩ := induction _ alike.tail
      rw [value_run_ask, value_run_ask, calls_run_ask, calls_run_ask, same]
      exact ⟨values, congrArg (List.cons _) calls⟩

theorem answeredAlike {σ : Type} {related : α → β → Prop} {left : Inquiry α}
    {right : Inquiry β} (mirrors : Mirrors related left right)
    (respond : Responder σ) (state : σ) :
    AnsweredAlike (Entry.calls (left.run respond state).transcript)
      (Entry.calls (right.run respond state).transcript) := by
  induction mirrors generalizing state with
  | done _ => exact .refl []
  | log _ rest => exact rest state
  | ask _ answered => exact (answered _ _).cons

end Mirrors

theorem run_eq_ofAnswers {σ : Type} {respond : Responder σ} {state : σ}
    {answers : (question : Question) → question.Answer} {inquiry : Inquiry α}
    (answered : ∀ call ∈ Entry.calls (inquiry.run respond state).transcript,
      call.answer = answers call.question) :
    (inquiry.run respond state).value = inquiry.eval answers ∧
      Entry.calls (inquiry.run respond state).transcript =
        Entry.calls (inquiry.run (.ofAnswers answers) ()).transcript :=
  (Mirrors.refl inquiry).run (.of_answers answered fun _ =>
    answer_of_mem_calls_ofAnswers answers inquiry)

/-- The value of an inquiry is told by the answers to its calls, also when the
answers to a question change. -/
theorem value_run_of_calls {σ : Type} {respond : Responder σ} {state : σ}
    {answers : (question : Question) → question.Answer} {inquiry : Inquiry α}
    (answered : ∀ call ∈ Entry.calls (inquiry.run respond state).transcript,
      call.answer = answers call.question) :
    (inquiry.run respond state).value = inquiry.eval answers :=
  (run_eq_ofAnswers answered).1

end Inquiry

namespace Decision

variable {α β : Type}

/-- Whatever the answers are, every question of the decision is allowed. -/
def Asks (allowed : Question → Prop) (decision : Decision α) : Prop :=
  decision.run.Asks allowed

variable {σ : Type} (respond : Responder σ) (state : σ)

/-- What a decision comes to against a responder. -/
def play (decision : Decision α) : Outcome σ (Except Rejection α) :=
  decision.run.run respond state

theorem calls_pure (value : α) :
    Entry.calls
      ((pure value : Decision α).play respond state).transcript = [] :=
  rfl

theorem play_query_bind (question : Question)
    (next : question.Answer → Decision α) :
    (query question >>= next).play respond state =
      let reply := respond question state
      let later := (next reply.answer).play respond reply.state
      { later with
        transcript :=
          .asked question reply.answer reply.events :: later.transcript } :=
  rfl

theorem calls_query_bind (question : Question)
    (next : question.Answer → Decision α) :
    Entry.calls ((query question >>= next).play respond state).transcript =
      ⟨question, (respond question state).answer⟩ ::
        Entry.calls ((next (respond question state).answer).play respond
          (respond question state).state).transcript :=
  rfl

theorem value_query_bind (question : Question)
    (next : question.Answer → Decision α) :
    ((query question >>= next).play respond state).value =
      ((next (respond question state).answer).play respond
        (respond question state).state).value :=
  rfl

theorem play_bind_of_ok {decision : Decision α} {next : α → Decision β}
    {value : α} (admitted : (decision.play respond state).value = .ok value) :
    (decision >>= next).play respond state =
      let first := decision.play respond state
      let second := (next value).play respond first.state
      { second with transcript := first.transcript ++ second.transcript } := by
  have unfolded := Inquiry.run_bind respond decision.run
    (ExceptT.bindCont next) state
  dsimp only at unfolded
  rw [show (decision.run.run respond state).value = .ok value from admitted]
    at unfolded
  exact unfolded

theorem play_bind_of_error {decision : Decision α} {next : α → Decision β}
    {rejection : Rejection}
    (rejected : (decision.play respond state).value = .error rejection) :
    (decision >>= next).play respond state =
      let first := decision.play respond state
      ⟨.error rejection, first.state, first.transcript⟩ := by
  have unfolded := Inquiry.run_bind respond decision.run
    (ExceptT.bindCont next) state
  dsimp only at unfolded
  rw [show (decision.run.run respond state).value = .error rejection
    from rejected] at unfolded
  simp only [ExceptT.bindCont, Inquiry.pure_eq_done, Inquiry.run_done,
    List.append_nil] at unfolded
  exact unfolded

end Decision

end SqlAdmission
