import SqlAdmission.Aggregate.Binding
import SqlAdmission.Rejection
import SqlAdmission.Text.Uppercase

/-!
# Built-in aggregates

The aggregates every database has.  They are typed from their operand alone,
so binding one asks nothing and casts nothing.
-/

namespace SqlAdmission

inductive Builtin where
  | count
  | sum
  | avg
  | min
  | max
  deriving DecidableEq

namespace Builtin

def all : List Builtin := [count, sum, avg, min, max]

def name : Builtin → String
  | count => "COUNT"
  | sum => "SUM"
  | avg => "AVG"
  | min => "MIN"
  | max => "MAX"

/-- The aggregate whose name a text is, once it is upper-cased. -/
def parse? (text : String) : Option Builtin :=
  all.find? (·.name = Text.uppercase text)

def adapter : Builtin → Adapter
  | count => .count
  | sum => .sum
  | avg => .avg
  | min | max => .maxMin

/-- Whether operands of a type can be aggregated: anything is counted, sums and
averages take numbers, extremes take what has an order. -/
def accepts : Builtin → DataType → Bool
  | count, _ => true
  | sum, operand | avg, operand => operand.isNumeric
  | min, operand | max, operand => operand.isOrderable

/-- The type of the result for an operand the aggregate accepts.  An average is
exact for exact operands with a scale and floating otherwise. -/
def yields : Builtin → DataType → DataType
  | count, _ => .bigInt
  | avg, .decimal precision scale => .decimal precision scale
  | avg, _ => .double
  | sum, operand | min, operand | max, operand => operand

def resultType (aggregate : Builtin) (operand : DataType) : Except Rejection DataType :=
  if aggregate.accepts operand then
    .ok (aggregate.yields operand)
  else
    .error (.illegalOperand aggregate.name operand)

def bind (aggregate : Builtin) (operand : DataType) : Except Rejection Binding :=
  (aggregate.resultType operand).map fun returnType =>
    ⟨returnType, aggregate.adapter, none⟩

theorem parse?_eq_some_iff {text : String} {aggregate : Builtin} :
    parse? text = some aggregate ↔ Text.uppercase text = aggregate.name := by
  constructor
  · intro found
    have named := List.find?_some found
    exact (of_decide_eq_true named).symm
  · intro named
    rw [parse?, named]
    cases aggregate <;> decide

end Builtin

end SqlAdmission
