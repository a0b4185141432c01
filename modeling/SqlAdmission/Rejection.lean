import SqlAdmission.Catalog.Error
import SqlAdmission.DataType

/-!
# Rejections

The reasons for which a statement is refused while it is bound, the SQLSTATE
reported for each, and its text.
-/

namespace SqlAdmission

/-- The refusal of a privilege or of ownership.  A denial of a whole schema has
no object name; the columns are those requested that no grant covers. -/
structure Denial where
  user : String
  privilege : String
  objectType : String
  schema : String
  name : Option String
  columns : Option (List String)
  forGrant : Bool
  deriving DecidableEq

namespace Denial

/-- EXECUTE has two states of its own, by whether it was to be granted; other
denials are told apart by whether they name columns. -/
def sqlState (denial : Denial) : String :=
  if denial.privilege = "EXECUTE" then
    if denial.forGrant then "42505" else "42504"
  else if denial.columns.isSome then "42503"
  else "42502"

/-- The columns of a denial, up to the name of the object. -/
def columnText : Option (List String) → String
  | none => ""
  | some columns =>
    let label := if columns.length = 1 then "column" else "columns"
    let quoted := ", ".intercalate (columns.map fun column => s!"'{column}'")
    s!"{label} {quoted} of "

def targetText (schema : String) : Option String → String
  | some name => s!"'{schema}'.'{name}'"
  | none => s!"'{schema}'"

def message (denial : Denial) : String :=
  let ability := if denial.forGrant then "cannot grant" else "does not have"
  let reason := if denial.forGrant then " without holding it" else ""
  let columns := columnText denial.columns
  let target := targetText denial.schema denial.name
  s!"User '{denial.user}' {ability} {denial.privilege} permission on " ++
    s!"{columns}{denial.objectType} {target}{reason}."

end Denial

inductive Rejection where
  | permissionDenied (denial : Denial)
  | danglingReference (kind : String) (id : UInt64)
  | loadFailure (implementation schema name detail : String)
  | illegalContract (implementation schema name : String)
  | inputMismatch (schema name expected actual : String)
  | returnMismatch (schema name expected actual : String)
  | illegalOperand (aggregate : String) (operand : DataType)
  | catalogRead (error : CatalogError)
  deriving DecidableEq

namespace Rejection

/-- The SQLSTATE reported to the client. -/
def sqlState : Rejection → String
  | permissionDenied denial => denial.sqlState
  | danglingReference _ _ => "XCZ02"
  | loadFailure _ _ _ _ => "42ZC8"
  | illegalContract _ _ _ => "42ZC4"
  | inputMismatch _ _ _ _ => "42ZC6"
  | returnMismatch _ _ _ _ => "42ZC7"
  | illegalOperand _ _ => "42Y22"
  | catalogRead _ => "58030"

def isDenial : Rejection → Bool
  | permissionDenied _ => true
  | _ => false

/-- The catalog error behind a rejection. -/
def cause? : Rejection → Option CatalogError
  | catalogRead error => some error
  | _ => none

def message : Rejection → String
  | permissionDenied denial => denial.message
  | danglingReference kind id => s!"Internal error: invalid {kind} id {id.toNat}"
  | loadFailure implementation schema name detail =>
    s!"Implementing class '{implementation}' for user defined aggregate " ++
      s!"'{schema}'.'{name}' could not be instantiated or was malformed: {detail}"
  | illegalContract implementation schema name =>
    s!"User defined aggregate '{schema}'.'{name}' is bound to external class " ++
      s!"'{implementation}'. The type parameters of that class could not be resolved."
  | inputMismatch schema name expected actual =>
    s!"User defined aggregate '{schema}'.'{name}' was declared to have input type " ++
      s!"'{expected}', but its implementation accepts '{actual}'"
  | returnMismatch schema name expected actual =>
    s!"User defined aggregate '{schema}'.'{name}' was declared to have return type " ++
      s!"'{expected}', but its implementation returns '{actual}'"
  | illegalOperand aggregate operand =>
    let type := operand.sql
    s!"Aggregate {aggregate} cannot operate on type {type}"
  | catalogRead error =>
    let text := error.message
    s!"catalog error: {text}"

end Rejection

end SqlAdmission
