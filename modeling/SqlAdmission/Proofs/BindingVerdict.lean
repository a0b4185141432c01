import SqlAdmission.Proofs.AggregateBinding
import SqlAdmission.Proofs.LoadOrder
import SqlAdmission.Proofs.StaleHandle

/-!
# Verdicts on implementations

Whatever the loader is, binding a registered aggregate comes to what its answers
show of the implementation: that it cannot be loaded or inspected, that it does
not supply the arguments of the aggregator contract, that it takes or returns
another type than the declared one, or that it fits.  Of several things that are
wrong the first of these is told.  Neither the accumulator nor the type of the
operand matters, except that a call whose operand has another type is bound with
a cast.
-/

namespace SqlAdmission

/-! ## Reading arguments by place -/

/-- A place that an argument list does not have. -/
structure OutOfRange where
  place : Nat
  length : Nat
  deriving DecidableEq

namespace Contract

variable {contract : Contract} {role : ParameterRole}

/-- The type supplied for the first parameter of a role, where it is a fault to
read a place that the list does not have. -/
def fetch (contract : Contract) (role : ParameterRole)
    (arguments : TypeArguments) : Except OutOfRange (Option Representation) :=
  match contract.position? role with
  | none => .ok none
  | some place =>
    if inside : place < arguments.length then .ok arguments[place]
    else .error ⟨place, arguments.length⟩

theorem lt_arity_of_position? {place : Nat}
    (found : contract.position? role = some place) : place < contract.arity := by
  unfold position? List.idxOf? at found
  exact (List.findIdx?_eq_some_iff_findIdx_eq.mp found).1

/-- An argument list that is no shorter than the contract is read without a
fault. -/
theorem fetch_eq_ok {arguments : TypeArguments}
    (complete : contract.arity ≤ arguments.length) :
    contract.fetch role arguments = .ok (contract.argument? role arguments) := by
  unfold fetch argument?
  cases found : contract.position? role with
  | none => rfl
  | some place =>
      have inside : place < arguments.length :=
        Nat.lt_of_lt_of_le (lt_arity_of_position? found) complete
      simp [inside]

end Contract

namespace Registration

/-- The input and result types that `suppliedTypes?` tells, read by place. -/
def fetchTypes (arguments : TypeArguments) :
    Except OutOfRange (Option (Representation × Representation)) :=
  if arguments.length = Contract.aggregator.arity then do
    let input ← Contract.aggregator.fetch .input arguments
    let result ← Contract.aggregator.fetch .result arguments
    return do
      let input ← input
      let result ← result
      return (input, result)
  else
    return none

theorem fetchTypes_eq_ok (arguments : TypeArguments) :
    fetchTypes arguments = .ok (suppliedTypes? arguments) := by
  unfold fetchTypes suppliedTypes?
  split
  · rename_i same
    have complete : Contract.aggregator.arity ≤ arguments.length :=
      Nat.le_of_eq same.symm
    rw [Contract.fetch_eq_ok complete, Contract.fetch_eq_ok complete]
    rfl
  · rfl

end Registration

/-! ## What the loader shows -/

/-- What the answers of a loader show of an implementation. -/
inductive Finding where
  | unavailable (error : LoadError)
  | unusable
  | otherInput (input : Representation)
  | otherResult (result : Representation)
  | fitting
  deriving DecidableEq

namespace Registration

/-- What the arguments show that an implementation supplies for the aggregator
contract, if it supplies any. -/
inductive Shows (registration : Registration) :
    Option TypeArguments → Finding → Prop where
  | noContract : Shows registration none .unusable
  | incomplete {arguments : TypeArguments} (length : arguments.length ≠ 3) :
      Shows registration (some arguments) .unusable
  | unboundInput {result accumulator : Option Representation} :
      Shows registration (some [none, result, accumulator]) .unusable
  | unboundResult {input accumulator : Option Representation} :
      Shows registration (some [input, none, accumulator]) .unusable
  | otherInput {input result : Representation}
      {accumulator : Option Representation}
      (different : input ≠ .ofDataType registration.inputType) :
      Shows registration (some [some input, some result, accumulator])
        (.otherInput input)
  | otherResult {result : Representation} {accumulator : Option Representation}
      (different : result ≠ .ofDataType registration.returnType) :
      Shows registration
        (some [some (.ofDataType registration.inputType), some result,
          accumulator]) (.otherResult result)
  | fitting {accumulator : Option Representation} :
      Shows registration
        (some [some (.ofDataType registration.inputType),
          some (.ofDataType registration.returnType), accumulator]) .fitting

/-- What the calls show that the loader got. -/
inductive Finds (registration : Registration) : List Call → Finding → Prop where
  | unloaded (error : LoadError) :
      Finds registration
        [⟨.load registration.implementation, .error error⟩]
        (.unavailable error)
  | uninspected (handle : Handle) (error : LoadError) :
      Finds registration
        [⟨.load registration.implementation, .ok handle⟩,
          ⟨.arguments handle .aggregator, .error error⟩] (.unavailable error)
  | inspected (handle : Handle) {supplied : Option TypeArguments}
      {finding : Finding} (shown : Shows registration supplied finding) :
      Finds registration
        [⟨.load registration.implementation, .ok handle⟩,
          ⟨.arguments handle .aggregator, .ok supplied⟩] finding

/-- What a call of the aggregate comes to after what was found. -/
def verdict (registration : Registration) (operand : DataType) :
    Finding → Except Rejection Binding
  | .unavailable error =>
    .error (.loadFailure registration.implementation registration.schemaName
      registration.name error.message)
  | .unusable =>
    .error (.illegalContract registration.implementation registration.schemaName
      registration.name)
  | .otherInput input =>
    .error (.inputMismatch registration.schemaName registration.name
      (Representation.ofDataType registration.inputType).name input.name)
  | .otherResult result =>
    .error (.returnMismatch registration.schemaName registration.name
      (Representation.ofDataType registration.returnType).name result.name)
  | .fitting =>
    .ok {
      returnType := registration.returnType
      adapter := .userDefined
      operandCast :=
        if operand = registration.inputType then none
        else some registration.inputType }

variable {registration : Registration} {supplied : Option TypeArguments}
  {finding other : Finding} {calls : List Call}

theorem exists_shows (registration : Registration)
    (supplied : Option TypeArguments) :
    ∃ finding, registration.Shows supplied finding := by
  cases supplied with
  | none => exact ⟨_, .noContract⟩
  | some arguments =>
      by_cases complete : arguments.length = 3
      · obtain ⟨input, result, accumulator, rfl⟩ :=
          List.length_eq_three.mp complete
        cases input with
        | none => exact ⟨_, .unboundInput⟩
        | some input =>
            cases result with
            | none => exact ⟨_, .unboundResult⟩
            | some result =>
                by_cases sameInput :
                    input = .ofDataType registration.inputType
                · subst sameInput
                  by_cases sameResult :
                      result = .ofDataType registration.returnType
                  · subst sameResult
                    exact ⟨_, .fitting⟩
                  · exact ⟨_, .otherResult sameResult⟩
                · exact ⟨_, .otherInput sameInput⟩
      · exact ⟨_, .incomplete complete⟩

theorem Shows.unique (first : registration.Shows supplied finding)
    (second : registration.Shows supplied other) : finding = other := by
  cases first with
  | noContract =>
      cases second
      rfl
  | incomplete length =>
      cases second <;> first | rfl | simp at length
  | unboundInput =>
      cases second <;> rfl
  | unboundResult =>
      cases second <;> rfl
  | otherInput different =>
      cases second with
      | incomplete length => simp at length
      | otherInput => rfl
      | otherResult => exact (different rfl).elim
      | fitting => exact (different rfl).elim
  | otherResult different =>
      cases second with
      | incomplete length => simp at length
      | otherInput sameInput => exact (sameInput rfl).elim
      | otherResult => rfl
      | fitting => exact (different rfl).elim
  | fitting =>
      cases second with
      | incomplete length => simp at length
      | otherInput different => exact (different rfl).elim
      | otherResult different => exact (different rfl).elim
      | fitting => rfl

theorem Finds.unique (first : registration.Finds calls finding)
    (second : registration.Finds calls other) : finding = other := by
  cases first with
  | unloaded error =>
      cases second
      rfl
  | uninspected handle error =>
      cases second
      rfl
  | inspected handle shown =>
      cases second with
      | inspected _ alsoShown => exact shown.unique alsoShown

theorem Shows.judge_eq (shown : registration.Shows supplied finding)
    (operand : DataType) :
    registration.judge supplied operand =
      registration.verdict operand finding := by
  unfold judge
  cases shown with
  | noContract => rfl
  | incomplete length =>
      rename_i arguments
      have unusable : suppliedTypes? arguments = none := if_neg length
      simp only [Option.bind_some, unusable]
      rfl
  | unboundInput => rfl
  | unboundResult =>
      rename_i input accumulator
      cases input <;> rfl
  | otherInput different => exact if_pos different
  | otherResult different =>
      exact (if_neg (not_not.mpr rfl)).trans (if_pos different)
  | fitting =>
      exact (if_neg (not_not.mpr rfl)).trans (if_neg (not_not.mpr rfl))

/-- Binding comes to what was found, and something is found in any case. -/
theorem finds_bind {σ : Type} (respond : Responder σ) (state : σ)
    (registration : Registration) (operand : DataType) :
    let outcome := (registration.bind operand).play respond state
    ∃ finding,
      registration.Finds (Entry.calls outcome.transcript) finding ∧
        outcome.value = registration.verdict operand finding := by
  intro outcome
  unfold outcome
  rw [calls_bind, value_bind]
  cases loaded : (respond (.load registration.implementation) state).answer with
  | error error =>
      simp only [loaded]
      exact ⟨_, .unloaded error, rfl⟩
  | ok handle =>
      simp only [loaded]
      cases answered : (respond (.arguments handle .aggregator)
          (respond (.load registration.implementation) state).state).answer with
      | error error => exact ⟨_, .uninspected handle error, rfl⟩
      | ok supplied =>
          obtain ⟨finding, shown⟩ := registration.exists_shows supplied
          exact ⟨finding, .inspected handle shown, shown.judge_eq operand⟩

theorem verdict_eq_ok_iff {operand : DataType} {binding : Binding} :
    registration.verdict operand finding = .ok binding ↔
      finding = .fitting ∧ binding = registration.binding operand := by
  cases finding with
  | fitting => simp [verdict, Registration.binding, eq_comm]
  | unavailable error => simp [verdict]
  | unusable => simp [verdict]
  | otherInput input => simp [verdict]
  | otherResult result => simp [verdict]

end Registration

/-! ## What does not matter -/

/-- The responder that tells another accumulator wherever arguments are
supplied. -/
def Responder.withAccumulator {σ : Type} (respond : Responder σ)
    (accumulator : Option Representation) : Responder σ
  | .arguments handle contract, state =>
    let reply := respond (.arguments handle contract) state
    { reply with answer := reply.answer.map (·.map (·.set 2 accumulator)) }
  | question, state => respond question state

namespace Registration

variable {registration : Registration}

theorem suppliedTypes?_set (arguments : TypeArguments)
    (accumulator : Option Representation) :
    suppliedTypes? (arguments.set 2 accumulator) =
      suppliedTypes? arguments := by
  unfold suppliedTypes?
  rw [List.length_set]
  split
  · rename_i complete
    obtain ⟨input, result, replaced, rfl⟩ := List.length_eq_three.mp complete
    change (do
        let first ← Contract.aggregator.argument? .input
          [input, result, accumulator]
        let second ← Contract.aggregator.argument? .result
          [input, result, accumulator]
        return (first, second)) = _
    simp only [Contract.argument?_aggregator_input,
      Contract.argument?_aggregator_result]
  · rfl

theorem judge_set (registration : Registration)
    (supplied : Option TypeArguments) (accumulator : Option Representation)
    (operand : DataType) :
    registration.judge (supplied.map (·.set 2 accumulator)) operand =
      registration.judge supplied operand := by
  cases supplied with
  | none => rfl
  | some arguments =>
      unfold judge
      simp only [Option.map_some, Option.bind_some, suppliedTypes?_set]

theorem value_bind_withAccumulator {σ : Type} (respond : Responder σ)
    (state : σ) (registration : Registration) (operand : DataType)
    (accumulator : Option Representation) :
    ((registration.bind operand).play (respond.withAccumulator accumulator)
        state).value =
      ((registration.bind operand).play respond state).value := by
  rw [value_bind, value_bind]
  simp only [Responder.withAccumulator]
  cases (respond (.load registration.implementation) state).answer with
  | error error => rfl
  | ok handle =>
      dsimp only
      cases (respond (.arguments handle .aggregator)
        (respond (.load registration.implementation) state).state).answer with
      | error error => rfl
      | ok supplied =>
          exact registration.judge_set supplied accumulator operand

/-- What is bound with a cast is bound without one at the type of the cast, if
the loader answers as before. -/
theorem value_bind_at_cast {σ : Type} {respond : Responder σ}
    {state later : σ} {operand cast : DataType} {binding : Binding}
    (bound : ((registration.bind operand).play respond state).value =
      .ok binding)
    (hinted : binding.operandCast = some cast)
    (same : Entry.calls
        ((registration.bind cast).play respond later).transcript =
      Entry.calls
        ((registration.bind operand).play respond state).transcript) :
    ((registration.bind cast).play respond later).value =
      .ok { binding with operandCast := none } := by
  obtain ⟨finding, found, judged⟩ :=
    finds_bind respond state registration operand
  rw [bound] at judged
  obtain ⟨rfl, rfl⟩ := verdict_eq_ok_iff.mp judged.symm
  obtain ⟨again, foundAgain, judgedAgain⟩ :=
    finds_bind respond later registration cast
  rw [same] at foundAgain
  obtain rfl := foundAgain.unique found
  have declared : cast = registration.inputType := by
    simp only [binding] at hinted
    split at hinted
    · contradiction
    · exact (Option.some.inj hinted).symm
  rw [judgedAgain]
  simp [verdict, binding, declared]

/-- Against any loader the answers to the calls of a binding show exactly one
finding, which tells what the binding comes to.  The calls are the same for every
operand, the accumulator does not matter, and no place is read that an argument
list does not have. -/
theorem verdict_told_by_finding {σ : Type} (respond : Responder σ) (state : σ)
    (registration : Registration) (operand : DataType) :
    let outcome := (registration.bind operand).play respond state
    let calls := Entry.calls outcome.transcript
    (∃ finding,
      (∀ other, registration.Finds calls other ↔ other = finding) ∧
        outcome.value = registration.verdict operand finding) ∧
    (∀ called : DataType,
      Entry.calls ((registration.bind called).play respond state).transcript =
        calls) ∧
    (∀ accumulator,
      ((registration.bind operand).play (respond.withAccumulator accumulator)
        state).value = outcome.value) ∧
    (∀ arguments, fetchTypes arguments = .ok (suppliedTypes? arguments)) ∧
    ∀ binding cast later, outcome.value = .ok binding →
      binding.operandCast = some cast →
      let again := (registration.bind cast).play respond later
      Entry.calls again.transcript = calls →
        again.value = .ok { binding with operandCast := none } := by
  intro outcome calls
  refine ⟨?_, ?_, ?_, fetchTypes_eq_ok, ?_⟩
  · obtain ⟨finding, found, judged⟩ :=
      finds_bind respond state registration operand
    refine ⟨finding, fun other => ?_, judged⟩
    constructor
    · intro alsoFound
      exact alsoFound.unique found
    · intro same
      rw [same]
      exact found
  · intro called
    exact (registration.calls_bind respond state called).trans
      (registration.calls_bind respond state operand).symm
  · exact value_bind_withAccumulator respond state registration operand
  · intro binding cast later bound hinted again same
    exact value_bind_at_cast bound hinted same

/-- `SPREAD` is bound for integers with a cast, and bound as it is for what they
are cast to. -/
theorem spread_bound_at_cast :
    let stores : Stores := { artifacts := .run .empty [.deploy spreadArtifact] }
    let registration : Registration :=
      ⟨⟨2⟩, "APP", "SPREAD", .double, .double, "stats.Spread"⟩
    ((registration.bind .int).play Stores.responder stores).value =
        .ok ⟨.double, .userDefined, some .double⟩ ∧
      ((registration.bind .double).play Stores.responder stores).value =
        .ok ⟨.double, .userDefined, none⟩ := by
  intro stores registration
  have bound : ((registration.bind .int).play Stores.responder stores).value =
      .ok ⟨.double, .userDefined, some .double⟩ := by
    rw [Registration.value_bind]
    decide
  obtain ⟨-, sameCalls, -, -, again⟩ :=
    verdict_told_by_finding Stores.responder stores registration .int
  exact ⟨bound, again _ .double stores bound rfl (sameCalls .double)⟩

end Registration

end SqlAdmission
