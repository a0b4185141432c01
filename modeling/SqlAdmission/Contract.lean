import SqlAdmission.Representation

/-!
# Contracts

A contract names an interface that user code implements and lists the roles of
its type parameters in order.  An implementation supplies an argument for each
parameter, or leaves it unbound.
-/

namespace SqlAdmission

/-- The part a type parameter plays in a contract. -/
inductive ParameterRole where
  | input
  | result
  | accumulator
  deriving DecidableEq

/-- A generic interface: its name and the roles of its type parameters. -/
structure Contract where
  name : String
  roles : List ParameterRole
  deriving DecidableEq

/-- The types an implementation supplies for the parameters of a contract, in
their order; an unbound parameter has none. -/
abbrev TypeArguments := List (Option Representation)

namespace Contract

def aggregator : Contract := ⟨"Aggregator", [.input, .result, .accumulator]⟩

def arity (contract : Contract) : Nat :=
  contract.roles.length

/-- The place of the first parameter of a role. -/
def position? (contract : Contract) (role : ParameterRole) : Option Nat :=
  contract.roles.idxOf? role

/-- The type supplied for the first parameter of a role, if it is bound. -/
def argument? (contract : Contract) (role : ParameterRole)
    (arguments : TypeArguments) : Option Representation :=
  (contract.position? role).bind fun place => arguments[place]?.join

theorem argument?_aggregator_input (first second third : Option Representation) :
    aggregator.argument? .input [first, second, third] = first := by
  cases first <;> rfl

theorem argument?_aggregator_result (first second third : Option Representation) :
    aggregator.argument? .result [first, second, third] = second := by
  cases second <;> rfl

end Contract

/-- An aggregator written in the host language: the host types it takes and
returns, and the name of its own type, which is its accumulator. -/
structure HostAggregator where
  input : HostType
  result : HostType
  typeName : String
  deriving DecidableEq

/-- The arguments a host aggregator supplies for the aggregator contract. -/
def HostAggregator.arguments (aggregator : HostAggregator) : TypeArguments :=
  [some aggregator.input.representation, some aggregator.result.representation,
    some (.foreign aggregator.typeName)]

end SqlAdmission
