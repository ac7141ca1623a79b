/-! # MySQL types

The type of a column is its protocol number together with flags and a display length; its name depends
on all three.
-/

namespace SqlSession.Mysql

/-- The column types of the protocol. -/
inductive ColumnType where
  | decimal
  | tiny
  | short
  | long
  | float
  | double
  | null
  | timestamp
  | longLong
  | int24
  | date
  | time
  | datetime
  | year
  | varChar
  | bit
  | json
  | newDecimal
  | enumeration
  | set
  | tinyBlob
  | mediumBlob
  | longBlob
  | blob
  | varString
  | string
  | geometry
deriving DecidableEq, Repr

namespace ColumnType

/-- The protocol numbers. -/
def numbers : List (Nat × ColumnType) :=
  [(0, decimal), (1, tiny), (2, short), (3, long), (4, float), (5, double), (6, null),
    (7, timestamp), (8, longLong), (9, int24), (10, date), (11, time), (12, datetime), (13, year),
    (15, varChar), (16, bit), (245, json), (246, newDecimal), (247, enumeration), (248, set),
    (249, tinyBlob), (250, mediumBlob), (251, longBlob), (252, blob), (253, varString),
    (254, string), (255, geometry)]

/-- The type of a protocol number. -/
def ofNumber? (n : Nat) : Option ColumnType := (numbers.find? (·.1 = n)).map Prod.snd

end ColumnType

/-- The type of a column. -/
structure TypeInfo where
  type : ColumnType
  unsigned : Bool
  binary : Bool
  enumeration : Bool
  /-- The display length. -/
  length : Nat
deriving DecidableEq, Repr

namespace TypeInfo

/-- The type with the flag bits of the protocol. -/
def ofFlags (type : ColumnType) (flags length : Nat) : TypeInfo :=
  ⟨type, flags.testBit 5, flags.testBit 7, flags.testBit 8, length⟩

/-- The name under which a column reports its type. -/
def name (t : TypeInfo) : String :=
  let signed (n : String) : String := if t.unsigned then n ++ " UNSIGNED" else n
  let either (binary text : String) : String := if t.binary then binary else text
  match t.type with
  | .tiny => if t.length = 1 then "BOOLEAN" else signed "TINYINT"
  | .short => signed "SMALLINT"
  | .long => signed "INT"
  | .int24 => signed "MEDIUMINT"
  | .longLong => signed "BIGINT"
  | .float => "FLOAT"
  | .double => "DOUBLE"
  | .null => "NULL"
  | .timestamp => "TIMESTAMP"
  | .date => "DATE"
  | .time => "TIME"
  | .datetime => "DATETIME"
  | .year => "YEAR"
  | .bit => "BIT"
  | .enumeration => "ENUM"
  | .set => "SET"
  | .decimal => "DECIMAL"
  | .newDecimal => "DECIMAL"
  | .geometry => "GEOMETRY"
  | .json => "JSON"
  | .string => either "BINARY" (if t.enumeration then "ENUM" else "CHAR")
  | .varChar => either "VARBINARY" "VARCHAR"
  | .varString => either "VARBINARY" "VARCHAR"
  | .tinyBlob => either "TINYBLOB" "TINYTEXT"
  | .blob => either "BLOB" "TEXT"
  | .mediumBlob => either "MEDIUMBLOB" "MEDIUMTEXT"
  | .longBlob => either "LONGBLOB" "LONGTEXT"

/-- The integer types. -/
def isInteger (t : TypeInfo) : Bool :=
  match t.type with
  | .tiny | .short | .long | .int24 | .longLong => true
  | _ => false

/-- The types whose values are strings of characters or octets. -/
def isString (t : TypeInfo) : Bool :=
  match t.type with
  | .varChar | .varString | .string | .tinyBlob | .blob | .mediumBlob | .longBlob
  | .enumeration => true
  | _ => false

end TypeInfo

end SqlSession.Mysql
