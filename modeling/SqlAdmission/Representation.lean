import SqlAdmission.DataType

/-!
# Representations of SQL values in user code

An aggregate implementation receives its operands as values of the host
language.  Every SQL type has one representation; narrow integers widen to 32
bits and all character types share one.  A foreign representation is one that
no SQL type has, even if its name is that of a built-in one.
-/

namespace SqlAdmission

/-- How a value is handed to user code. -/
inductive Representation where
  | bool
  | int32
  | int64
  | float32
  | float64
  | decimal
  | string
  | bytes
  | date
  | time
  | timestamp
  | foreign (name : String)
  deriving DecidableEq

namespace Representation

/-- The representation the engine uses for values of a SQL type. -/
def ofDataType : DataType → Representation
  | .boolean => bool
  | .tinyInt | .smallInt | .int => int32
  | .bigInt => int64
  | .float => float32
  | .double => float64
  | .decimal _ _ => decimal
  | .char _ | .varchar _ | .text => string
  | .blob => bytes
  | .date => date
  | .time => time
  | .timestamp => timestamp

def name : Representation → String
  | bool => "bool"
  | int32 => "i32"
  | int64 => "i64"
  | float32 => "f32"
  | float64 => "f64"
  | decimal => "Decimal"
  | string => "String"
  | bytes => "Vec<u8>"
  | date => "Date"
  | time => "Time"
  | timestamp => "Timestamp"
  | foreign name => name

/-- Among the representations of SQL types the name tells them apart. -/
theorem name_ofDataType_inj {left right : DataType} :
    (ofDataType left).name = (ofDataType right).name ↔
      ofDataType left = ofDataType right := by
  constructor
  · cases left <;> cases right <;> simp [ofDataType, name]
  · intro same
    rw [same]

end Representation

/-- The host types that have a representation of their own. -/
inductive HostType where
  | bool
  | int32
  | int64
  | float32
  | float64
  | string
  | bytes
  deriving DecidableEq

namespace HostType

def all : List HostType := [bool, int32, int64, float32, float64, string, bytes]

def representation : HostType → Representation
  | bool => .bool
  | int32 => .int32
  | int64 => .int64
  | float32 => .float32
  | float64 => .float64
  | string => .string
  | bytes => .bytes

def ofName? (name : String) : Option HostType :=
  all.find? (·.representation.name = name)

end HostType

end SqlAdmission
