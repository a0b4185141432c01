import SqlAdmission.Aggregate.Builtin
import SqlAdmission.Aggregate.Registered
import SqlAdmission.Statement.Check

/-!
# Binding aggregate calls

A call of a user-defined aggregate is bound only after the user's permission to
execute it has been checked, so no artifact is loaded for someone who may not
run it.  A built-in aggregate needs no permission.
-/

namespace SqlAdmission

/-- What an aggregate call resolved to: a built-in aggregate, or the identifier
of a registered one. -/
inductive Callee where
  | builtin (aggregate : Builtin)
  | registered (id : ObjectId)
  deriving DecidableEq

namespace Statement

def bindRegistered (statement : Statement) (id : ObjectId) (operand : DataType) :
    Decision Binding := do
  statement.check (.access id .execute) false
  match ← statement.lookup (.registration id) with
  | none => throw (.danglingReference "aggregate" id.val)
  | some registration => registration.bind operand

def bindCall (statement : Statement) (callee : Callee) (operand : DataType) :
    Decision Binding :=
  match callee with
  | .builtin aggregate => liftExcept (aggregate.bind operand)
  | .registered id => statement.bindRegistered id operand
where
  /-- A decision that asks nothing. -/
  liftExcept (result : Except Rejection Binding) : Decision Binding :=
    ExceptT.mk (pure result)

end Statement

end SqlAdmission
