/-!
# Column scopes

How much of an object a granted privilege reaches: every column, or the
columns of a list.  The union of two scopes is unrestricted as soon as one of
them is; of two lists the first keeps its order and gains the columns it lacks.
-/

namespace SqlAdmission

/-- The columns a granted privilege reaches. -/
inductive Scope where
  | everyColumn
  | only (columns : List String)
  deriving DecidableEq

namespace Scope

def isWhole : Scope → Bool
  | everyColumn => true
  | only _ => false

def reaches : Scope → String → Bool
  | everyColumn, _ => true
  | only columns, column => columns.contains column

/-- A list of columns followed by a column it may lack. -/
def addColumn (columns : List String) (column : String) : List String :=
  if columns.contains column then columns else columns ++ [column]

/-- What two grants of one privilege reach together. -/
def union : Scope → Scope → Scope
  | only own, only more => only (more.foldl addColumn own)
  | _, _ => everyColumn

@[simp] theorem isWhole_everyColumn : everyColumn.isWhole = true := rfl

@[simp] theorem isWhole_only (columns : List String) :
    (only columns).isWhole = false := rfl

@[simp] theorem reaches_everyColumn (column : String) :
    everyColumn.reaches column = true := rfl

@[simp] theorem reaches_only (columns : List String) (column : String) :
    (only columns).reaches column = columns.contains column := rfl

theorem mem_addColumn {columns : List String} {added column : String} :
    column ∈ addColumn columns added ↔ column ∈ columns ∨ column = added := by
  unfold addColumn
  split
  · rename_i present
    have member : added ∈ columns := by simpa using present
    constructor
    · exact Or.inl
    · rintro (old | rfl)
      · exact old
      · exact member
  · simp

theorem mem_foldl_addColumn {own more : List String} {column : String} :
    column ∈ more.foldl addColumn own ↔ column ∈ own ∨ column ∈ more := by
  induction more generalizing own with
  | nil => simp
  | cons first rest ih => simp [ih, mem_addColumn, or_assoc]

@[simp] theorem isWhole_union (left right : Scope) :
    (left.union right).isWhole = (left.isWhole || right.isWhole) := by
  cases left <;> cases right <;> rfl

@[simp] theorem reaches_union (left right : Scope) (column : String) :
    (left.union right).reaches column = (left.reaches column || right.reaches column) := by
  cases left <;> cases right <;>
    simp [union, mem_foldl_addColumn]

end Scope

end SqlAdmission
