import SqlAdmission.Proofs.Admission
import SqlAdmission.Proofs.FailedCalls

/-!
# Lists of requirements

A list of requirements is checked part by part: what follows is checked only
after an admission, from the state reached so far, and its reads and events come
after the earlier ones.  Against a dictionary whose answers do not change, a list
comes to what its members come to one by one, up to the first that is rejected.
Whether it is admitted then depends on which members it has, and neither on their
order nor on how often they occur.
-/

namespace SqlAdmission

namespace Responder

variable {σ : Type}

/-- The state after some questions have been asked. -/
def after (respond : Responder σ) (asked : List Question) (state : σ) : σ :=
  asked.foldl (fun state question => (respond question state).state) state

/-- Allowed questions get fixed answers, whichever of them are asked before. -/
def Steady (respond : Responder σ) (allowed : Question → Prop)
    (answers : (question : Question) → question.Answer) (state : σ) : Prop :=
  ∀ asked : List Question, (∀ question ∈ asked, allowed question) →
    ∀ question, allowed question →
      (respond question (respond.after asked state)).answer = answers question

namespace Steady

variable {respond : Responder σ} {allowed : Question → Prop}
  {answers : (question : Question) → question.Answer} {state : σ}

theorem answer_eq (steady : respond.Steady allowed answers state)
    {question : Question} (permitted : allowed question) :
    (respond question state).answer = answers question :=
  steady [] (by simp) question permitted

theorem ask (steady : respond.Steady allowed answers state)
    {question : Question} (permitted : allowed question) :
    respond.Steady allowed answers (respond question state).state := by
  intro asked others
  apply steady (question :: asked)
  intro other member
  rcases List.mem_cons.mp member with rfl | later
  · exact permitted
  · exact others other later

theorem answer_of_mem_calls (steady : respond.Steady allowed answers state)
    {α : Type} {inquiry : Inquiry α} (asks : inquiry.Asks allowed) {call : Call}
    (member : call ∈ Entry.calls (inquiry.run respond state).transcript) :
    call.answer = answers call.question := by
  induction asks generalizing state with
  | done value => simp [Entry.calls] at member
  | log _ rest => exact rest steady member
  | ask permitted _ answered =>
      rcases List.mem_cons.mp member with rfl | later
      · exact steady.answer_eq permitted
      · exact answered _ (steady.ask permitted) later

end Steady

end Responder

/-- Being asked does not change the stores. -/
theorem Stores.steady_responder (stores : Stores) (allowed : Question → Prop) :
    responder.Steady allowed stores.answer stores := by
  have unchanged (asked : List Question) :
      responder.after asked stores = stores := by
    induction asked with
    | nil => rfl
    | cons question asked induction => exact induction
  intro asked _ question _
  rw [unchanged]
  rfl

/-- The members of a list that are checked, and what the list comes to, when
each member comes to a result of its own: all are checked if none is rejected,
else those up to the first that is. -/
inductive CheckedUpTo (single : Requirement → Except Rejection Unit) :
    List Requirement → List Requirement → Except Rejection Unit → Prop where
  | admitted {requirements : List Requirement}
      (all : ∀ requirement ∈ requirements, single requirement = .ok ()) :
      CheckedUpTo single requirements requirements (.ok ())
  | rejected {before after : List Requirement} {first : Requirement}
      {rejection : Rejection}
      (earlier : ∀ requirement ∈ before, single requirement = .ok ())
      (refused : single first = .error rejection) :
      CheckedUpTo single (before ++ first :: after) (before ++ [first])
        (.error rejection)

namespace CheckedUpTo

variable {single : Requirement → Except Rejection Unit}
  {requirements checked : List Requirement} {requirement : Requirement}
  {value : Except Rejection Unit}

theorem head {rejection : Rejection}
    (refused : single requirement = .error rejection) :
    CheckedUpTo single (requirement :: requirements) [requirement]
      (.error rejection) :=
  @rejected single [] requirements requirement rejection (by simp) refused

theorem cons (passed : single requirement = .ok ())
    (later : CheckedUpTo single requirements checked value) :
    CheckedUpTo single (requirement :: requirements) (requirement :: checked)
      value := by
  cases later with
  | admitted all => exact .admitted (List.forall_mem_cons.mpr ⟨passed, all⟩)
  | @rejected before after first rejection earlier refused =>
      exact @rejected single (requirement :: before) after first rejection
        (List.forall_mem_cons.mpr ⟨passed, earlier⟩) refused

theorem eq_ok_iff (checks : CheckedUpTo single requirements checked value) :
    value = .ok () ↔
      ∀ requirement ∈ requirements, single requirement = .ok () := by
  cases checks with
  | admitted all => exact iff_of_true rfl all
  | rejected earlier refused =>
      refine iff_of_false nofun fun all => ?_
      rw [all _ (by simp)] at refused
      cases refused

end CheckedUpTo

namespace Decision

variable {α : Type} {answers : (question : Question) → question.Answer}

/-- The calls of a decision when an answer depends on its question alone. -/
def settledCalls (answers : (question : Question) → question.Answer)
    (decision : Decision α) : List Call :=
  Entry.calls (decision.play (.ofAnswers answers) ()).transcript

theorem settledCalls_bind_of_ok {β : Type} {decision : Decision α}
    {next : α → Decision β} {value : α}
    (admitted : decision.settle answers = .ok value) :
    (decision >>= next).settledCalls answers =
      decision.settledCalls answers ++ (next value).settledCalls answers := by
  unfold settledCalls
  rw [play_bind_of_ok _ _ admitted]
  exact Entry.calls_append _ _

theorem settledCalls_bind_of_error {β : Type} {decision : Decision α}
    {next : α → Decision β} {rejection : Rejection}
    (rejected : decision.settle answers = .error rejection) :
    (decision >>= next).settledCalls answers =
      decision.settledCalls answers := by
  unfold settledCalls
  rw [play_bind_of_error _ _ rejected]

end Decision

namespace Responder.Steady

variable {σ α : Type} {respond : Responder σ} {allowed : Question → Prop}
  {answers : (question : Question) → question.Answer} {state : σ}
  {decision : Decision α}

theorem value_play (steady : respond.Steady allowed answers state)
    (asks : decision.Asks allowed) :
    (decision.play respond state).value = decision.settle answers :=
  Inquiry.value_run_of_calls fun _ => steady.answer_of_mem_calls asks

theorem calls_play (steady : respond.Steady allowed answers state)
    (asks : decision.Asks allowed) :
    Entry.calls (decision.play respond state).transcript =
      decision.settledCalls answers :=
  (Inquiry.run_eq_ofAnswers fun _ => steady.answer_of_mem_calls asks).2

end Responder.Steady

namespace Statement

variable (statement : Statement) (forGrant : Bool)

theorem checkAll_append (earlier later : List Requirement) :
    statement.checkAll (earlier ++ later) forGrant = (do
      statement.checkAll earlier forGrant
      statement.checkAll later forGrant) := by
  induction earlier with
  | nil => exact (pure_bind () fun _ => statement.checkAll later forGrant).symm
  | cons requirement rest induction =>
      rw [List.cons_append, checkAll, checkAll, induction, bind_assoc]

/-- The members of a list are settled one by one, up to the first that is
rejected, and no calls are made but theirs. -/
theorem checkedUpTo_settle
    (answers : (question : Question) → question.Answer)
    (requirements : List Requirement) :
    ∃ checked,
      CheckedUpTo
        (fun requirement =>
          (statement.check requirement forGrant).settle answers)
        requirements checked
        ((statement.checkAll requirements forGrant).settle answers) ∧
      (statement.checkAll requirements forGrant).settledCalls answers =
        checked.flatMap fun requirement =>
          (statement.check requirement forGrant).settledCalls answers := by
  induction requirements with
  | nil => exact ⟨[], .admitted (by simp), rfl⟩
  | cons requirement rest induction =>
      unfold checkAll
      rw [Decision.settle_bind]
      cases verdict : (statement.check requirement forGrant).settle answers with
      | error rejection =>
          refine ⟨[requirement], .head verdict, ?_⟩
          rw [Decision.settledCalls_bind_of_error verdict]
          simp
      | ok passed =>
          obtain ⟨checked, upTo, calls⟩ := induction
          refine ⟨requirement :: checked, .cons verdict upTo, ?_⟩
          rw [Decision.settledCalls_bind_of_ok verdict, calls,
            List.flatMap_cons]

section Played

variable {σ : Type} (respond : Responder σ) (state : σ)

theorem play_checkAll_append (earlier later : List Requirement) :
    (statement.checkAll (earlier ++ later) forGrant).play respond state =
      let first := (statement.checkAll earlier forGrant).play respond state
      match first.value with
      | .ok () =>
        let second :=
          (statement.checkAll later forGrant).play respond first.state
        { second with transcript := first.transcript ++ second.transcript }
      | .error _ => first := by
  rw [checkAll_append]
  dsimp only
  cases verdict : ((statement.checkAll earlier forGrant).play respond
      state).value with
  | ok passed => exact Decision.play_bind_of_ok respond state verdict
  | error rejection =>
      rw [Decision.play_bind_of_error respond state verdict]
      dsimp only
      rw [← verdict]

variable {respond state}

/-- A dictionary with fixed answers settles the list and its members as those
answers do. -/
theorem checkedUpTo_play {answers : (question : Question) → question.Answer}
    (steady : respond.Steady statement.asksOnRights answers state)
    (requirements : List Requirement) :
    ∃ checked,
      CheckedUpTo
        (fun requirement =>
          ((statement.check requirement forGrant).play respond state).value)
        requirements checked
        ((statement.checkAll requirements forGrant).play respond state).value ∧
      Entry.calls ((statement.checkAll requirements forGrant).play respond
          state).transcript =
        checked.flatMap fun requirement =>
          Entry.calls ((statement.check requirement forGrant).play respond
            state).transcript := by
  have asksSingle (requirement : Requirement) :=
    statement.asks_check requirement forGrant
  have heedsAll (requirements : List Requirement) :
      (statement.checkAll requirements forGrant).HeedsFailures
        statement.asksOnRights [] :=
    statement.heeds_checkAll requirements forGrant
  simp only [steady.value_play (asksSingle _), steady.calls_play (asksSingle _),
    steady.value_play (heedsAll _).asks, steady.calls_play (heedsAll _).asks]
  exact statement.checkedUpTo_settle forGrant answers requirements

end Played

end Statement

/-- Whatever the dictionary, two lists in a row are checked in a row, the second
only after the first is admitted.  If the dictionary gives fixed answers, a list
is checked up to the first member that would be rejected by itself, and lists of
the same members are admitted alike. -/
theorem checked_in_order {σ : Type} (respond : Responder σ) (state : σ)
    (statement : Statement) (forGrant : Bool) :
    let single requirement :=
      (statement.check requirement forGrant).play respond state
    let all requirements :=
      (statement.checkAll requirements forGrant).play respond state
    (∀ earlier later,
      all (earlier ++ later) =
        match (all earlier).value with
        | .ok () =>
          let second := (statement.checkAll later forGrant).play respond
            (all earlier).state
          { second with
            transcript := (all earlier).transcript ++ second.transcript }
        | .error _ => all earlier) ∧
    ∀ answers, respond.Steady statement.asksOnRights answers state →
      (∀ requirements,
        ((all requirements).value = .ok () ↔
          ∀ requirement ∈ requirements, (single requirement).value = .ok ()) ∧
        ∃ checked,
          CheckedUpTo (fun requirement => (single requirement).value)
            requirements checked (all requirements).value ∧
          Entry.calls (all requirements).transcript =
            checked.flatMap fun requirement =>
              Entry.calls (single requirement).transcript) ∧
      ∀ left right : List Requirement,
        (∀ requirement, requirement ∈ left ↔ requirement ∈ right) →
          ((all left).value = .ok () ↔ (all right).value = .ok ()) := by
  intro single all
  refine ⟨statement.play_checkAll_append forGrant respond state, ?_⟩
  intro answers steady
  have inOrder := statement.checkedUpTo_play forGrant steady
  have admitted (requirements : List Requirement) :
      (all requirements).value = .ok () ↔
        ∀ requirement ∈ requirements, (single requirement).value = .ok () := by
    obtain ⟨checked, upTo, -⟩ := inOrder requirements
    exact upTo.eq_ok_iff
  refine ⟨fun requirements => ⟨admitted requirements, inOrder requirements⟩, ?_⟩
  intro left right same
  simp only [admitted, same]

/-- The refusal of an update of the column `id` of `ORDERS`. -/
def idNotUpdatable : Rejection :=
  .permissionDenied {
    user := "clerk", privilege := "UPDATE", objectType := "TABLE"
    schema := "APP", name := some "ORDERS", columns := some ["id"]
    forGrant := false }

/-- A list that `clerk` is refused, whose members are put in another order. -/
theorem clerk_refused_in_any_order :
    let stores : Stores := { catalog := Catalog.empty.run ordersReadable }
    let statement : Statement := { txn := ⟨1⟩, user := "clerk" }
    let read : Requirement := .access ⟨2⟩ (.select (some ["id"]))
    let write : Requirement := .access ⟨2⟩ (.update ["id"])
    let all requirements :=
      (statement.checkAll requirements false).play Stores.responder stores
    Stores.responder.Steady statement.asksOnRights stores.answer stores ∧
      (all [read, write, .ownership ⟨1⟩]).value = .error idNotUpdatable ∧
      (all [.ownership ⟨1⟩, write, read, write]).value ≠ .ok () := by
  intro stores statement read write all
  have steady := stores.steady_responder statement.asksOnRights
  have refused :
      (all [read, write, .ownership ⟨1⟩]).value = .error idNotUpdatable := by
    unfold all statement
    rfl
  have sameMembers : ∀ requirement,
      requirement ∈ [read, write, .ownership ⟨1⟩] ↔
        requirement ∈ [.ownership ⟨1⟩, write, read, write] := by
    grind
  have alike := ((checked_in_order Stores.responder stores statement
    false).2 stores.answer steady).2 _ _ sameMembers
  refine ⟨steady, refused, fun admitted => ?_⟩
  have contrary : (all [read, write, .ownership ⟨1⟩]).value = .ok () :=
    alike.mpr admitted
  rw [refused] at contrary
  contradiction

end SqlAdmission
