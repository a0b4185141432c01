import SqlAdmission.Aggregate.Binding
import SqlAdmission.Inquiry.Basic

/-!
# User-defined aggregates

A registered aggregate is checked against the artifact that implements it each
time a call is bound: the artifact is loaded, and the types it supplies for the
aggregator contract must be those of the declared input and return types.  The
input is judged before the return type.
-/

namespace SqlAdmission

namespace Registration

/-- The rejection for an artifact that could not be loaded or inspected. -/
def loadFailure (registration : Registration) (error : LoadError) : Rejection :=
  .loadFailure registration.implementation registration.schemaName registration.name
    error.message

/-- The rejection for an artifact without usable type arguments. -/
def illegalContract (registration : Registration) : Rejection :=
  .illegalContract registration.implementation registration.schemaName registration.name

/-- The input and result types of an argument list that has an argument for
every parameter of the aggregator contract and binds these two. -/
def suppliedTypes? (arguments : TypeArguments) : Option (Representation × Representation) :=
  if arguments.length = Contract.aggregator.arity then do
    let input ← Contract.aggregator.argument? .input arguments
    let result ← Contract.aggregator.argument? .result arguments
    return (input, result)
  else
    none

/-- The binding of a call whose operand has a type.  Only an operand of another
type than the declared one is cast. -/
def binding (registration : Registration) (operand : DataType) : Binding where
  returnType := registration.returnType
  adapter := .userDefined
  operandCast := if operand = registration.inputType then none else some registration.inputType

/-- The verdict on a call, given what the artifact supplies for the contract. -/
def judge (registration : Registration) (arguments : Option TypeArguments)
    (operand : DataType) : Except Rejection Binding :=
  match arguments.bind suppliedTypes? with
  | none => .error registration.illegalContract
  | some (input, result) =>
    let declaredInput := Representation.ofDataType registration.inputType
    let declaredResult := Representation.ofDataType registration.returnType
    if input ≠ declaredInput then
      .error (.inputMismatch registration.schemaName registration.name
        declaredInput.name input.name)
    else if result ≠ declaredResult then
      .error (.returnMismatch registration.schemaName registration.name
        declaredResult.name result.name)
    else
      .ok (registration.binding operand)

/-- The answer of the loader, or the rejection for its failure, which is logged. -/
def loaded {α : Type} (registration : Registration) : Except LoadError α → Decision α
  | .ok answer => pure answer
  | .error error => do
    Decision.report (.loadFailed registration error)
    throw (registration.loadFailure error)

def bind (registration : Registration) (operand : DataType) : Decision Binding := do
  let handle ← registration.loaded (← Decision.query (.load registration.implementation))
  let arguments ← registration.loaded
    (← Decision.query (.arguments handle .aggregator))
  match registration.judge arguments operand with
  | .error rejection => throw rejection
  | .ok binding =>
    Decision.report (.aggregateBound registration)
    return binding

end Registration

end SqlAdmission
