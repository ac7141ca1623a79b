/-! # PostgreSQL types

The types that have numbers of their own, and the names under which columns report them.
-/

namespace SqlSession.Postgres

/-- The number of a type. -/
abbrev Oid := Nat

namespace Oid

def bool : Oid := 16
def bytea : Oid := 17
def name : Oid := 19
def int8 : Oid := 20
def int2 : Oid := 21
def int4 : Oid := 23
def text : Oid := 25
def json : Oid := 114
def float4 : Oid := 700
def float8 : Oid := 701
def unknown : Oid := 705
def char : Oid := 1042
def varchar : Oid := 1043
def date : Oid := 1082
def time : Oid := 1083
def timestamp : Oid := 1114
def timestamptz : Oid := 1184
def uuid : Oid := 2950
def jsonb : Oid := 3802

/-- The types whose values are text. -/
def texts : List Oid := [text, name, char, varchar, unknown]

/-- The types with their names and with the numbers of their arrays. -/
def scalars : List (Oid × String × Oid) :=
  [(16, "BOOL", 1000), (17, "BYTEA", 1001), (18, "\"CHAR\"", 1002), (19, "NAME", 1003),
    (20, "INT8", 1016), (21, "INT2", 1005), (23, "INT4", 1007), (25, "TEXT", 1009),
    (26, "OID", 1028), (114, "JSON", 199), (600, "POINT", 1017), (601, "LSEG", 1018),
    (602, "PATH", 1019), (603, "BOX", 1020), (604, "POLYGON", 1027), (628, "LINE", 629),
    (650, "CIDR", 651), (700, "FLOAT4", 1021), (701, "FLOAT8", 1022), (718, "CIRCLE", 719),
    (774, "MACADDR8", 775), (790, "MONEY", 791), (829, "MACADDR", 1040), (869, "INET", 1041),
    (1042, "CHAR", 1014), (1043, "VARCHAR", 1015), (1082, "DATE", 1182), (1083, "TIME", 1183),
    (1114, "TIMESTAMP", 1115), (1184, "TIMESTAMPTZ", 1185), (1186, "INTERVAL", 1187),
    (1266, "TIMETZ", 1270), (1560, "BIT", 1561), (1562, "VARBIT", 1563), (1700, "NUMERIC", 1231),
    (2249, "RECORD", 2287), (2950, "UUID", 2951), (3802, "JSONB", 3807),
    (3904, "INT4RANGE", 3905), (3906, "NUMRANGE", 3907), (3908, "TSRANGE", 3909),
    (3910, "TSTZRANGE", 3911), (3912, "DATERANGE", 3913), (3926, "INT8RANGE", 3927),
    (4072, "JSONPATH", 4073)]

/-- The types that have no arrays. -/
def loners : List (Oid × String) := [(705, "UNKNOWN"), (2278, "VOID")]

/-- The name of a type; a type without a number of its own shows as a question mark. -/
def typeName (oid : Oid) : String :=
  match scalars.find? (·.1 = oid) with
  | some (_, n, _) => n
  | none =>
    match scalars.find? (·.2.2 = oid) with
    | some (_, n, _) => n ++ "[]"
    | none =>
      match loners.find? (·.1 = oid) with
      | some (_, n) => n
      | none => "?"

end Oid

end SqlSession.Postgres
