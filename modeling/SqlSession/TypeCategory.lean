import SqlSession.Backend

/-! # Categories of column types

The name that a server reports for a column's type decides which decoders are tried on its values.
-/

namespace SqlSession

/-- What a column's type is about. -/
inductive TypeCategory where
  | integer
  | unsignedInteger
  | float
  | decimal
  | boolean
  | temporal
  | binary
  | json
  | uuid
  | unknown
deriving DecidableEq, Repr

namespace TypeCategory

/-- The category of a type name, whatever its case.  The first rule that applies decides: exact
numerics go before integers and floats, and unsigned before signed. -/
def ofTypeName (name : String) (backend : Backend) : TypeCategory :=
  let lower := Text.lower name
  let has (word : String) : Bool := Text.hasInfix word.toList lower
  let starts (word : String) : Bool := word.toList.isPrefixOf lower
  let isOneOf (words : List String) : Bool := words.any fun w => w.toList = lower
  if has "decimal" || has "numeric" then
    if backend = .sqlite && isOneOf ["numeric"] then float else decimal
  else if isOneOf ["interval", "point"] then unknown
  else if has "unsigned" then unsignedInteger
  else if has "int" || has "serial" || has "tiny" then integer
  else if isOneOf ["bool", "boolean"] then boolean
  else if has "float" || has "double" || isOneOf ["real"] then float
  else if starts "timestamp" || starts "datetime" || isOneOf ["date", "time", "timetz"] then temporal
  else if isOneOf ["json", "jsonb"] then json
  else if isOneOf ["uuid"] then uuid
  else if has "blob" || has "binary" || isOneOf ["bytea"] then binary
  else unknown

/-- The name of a category. -/
def name : TypeCategory → String
  | integer => "Integer"
  | unsignedInteger => "UnsignedInteger"
  | float => "Float"
  | decimal => "Decimal"
  | boolean => "Boolean"
  | temporal => "Temporal"
  | binary => "Binary"
  | json => "Json"
  | uuid => "Uuid"
  | unknown => "Unknown"

end TypeCategory

end SqlSession
