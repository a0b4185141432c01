import SqlAdmission.DataType

/-!
# Bound aggregates

What binding an aggregate call yields: the type of its result, the adapter that
drives it during execution, and the cast its operand needs.
-/

namespace SqlAdmission

inductive Adapter where
  | count
  | sum
  | avg
  | maxMin
  | userDefined
  deriving DecidableEq

/-- The name under which the engine registers an adapter. -/
def Adapter.name : Adapter → String
  | count => "CountAggregator"
  | sum => "SumAggregator"
  | avg => "AvgAggregator"
  | maxMin => "MaxMinAggregator"
  | userDefined => "UserDefinedAggregator"

structure Binding where
  returnType : DataType
  adapter : Adapter
  operandCast : Option DataType
  deriving DecidableEq

end SqlAdmission
