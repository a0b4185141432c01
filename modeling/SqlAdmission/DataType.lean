/-!
# SQL data types

The column and operand types a statement can mention, the four classes that
aggregates are typed by, and the text under which a type appears in messages.
Lengths and decimal parameters are carried as declared, without validation.
-/

namespace SqlAdmission

inductive DataType where
  | boolean
  | tinyInt
  | smallInt
  | int
  | bigInt
  | float
  | double
  | decimal (precision scale : UInt8)
  | char (length : UInt32)
  | varchar (length : UInt32)
  | text
  | blob
  | date
  | time
  | timestamp
  deriving DecidableEq

namespace DataType

def isNumeric : DataType → Bool
  | tinyInt | smallInt | int | bigInt | float | double | decimal _ _ => true
  | _ => false

def isInteger : DataType → Bool
  | tinyInt | smallInt | int | bigInt => true
  | _ => false

def isString : DataType → Bool
  | char _ | varchar _ | text => true
  | _ => false

/-- Values of every type but binary data have an order. -/
def isOrderable : DataType → Bool
  | blob => false
  | _ => true

def sql : DataType → String
  | boolean => "BOOLEAN"
  | tinyInt => "TINYINT"
  | smallInt => "SMALLINT"
  | int => "INTEGER"
  | bigInt => "BIGINT"
  | float => "REAL"
  | double => "DOUBLE"
  | decimal precision scale => s!"DECIMAL({precision.toNat}, {scale.toNat})"
  | char length => s!"CHAR({length.toNat})"
  | varchar length => s!"VARCHAR({length.toNat})"
  | text => "TEXT"
  | blob => "BLOB"
  | date => "DATE"
  | time => "TIME"
  | timestamp => "TIMESTAMP"

end DataType

end SqlAdmission
