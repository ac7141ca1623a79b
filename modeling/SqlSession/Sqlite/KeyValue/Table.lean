import SqlSession.DriverFault

/-! # A table of texts by number

The rows of a table with a whole number as its primary key and a text that must be there.  The rows stand
in the order of their keys.  A change is made as a whole or not at all.
-/

namespace SqlSession.Sqlite.KeyValue

/-- A key, and the text to stand under it; `none` is a null. -/
structure Record where
  key : Int
  value : Option String
deriving DecidableEq, Repr

/-- The rows of a table, by ascending key. -/
abbrev Table := List (Int × String)

/-- Why the database refuses a statement. -/
inductive Fault where
  /-- A key stands in the table already. -/
  | duplicateKey
  | nullValue
  /-- A lock clause, which this system does not have. -/
  | lockClause
  /-- A text that is none of the statements known here. -/
  | unknownStatement
  | nestedTransaction
  | nothingToCommit
  | nothingToRollBack
  /-- Another transaction is in the way. -/
  | locked
deriving DecidableEq, Repr

namespace Fault

/-- The wording of a fault. -/
def message : Fault → String
  | duplicateKey => "UNIQUE constraint failed: kv.k"
  | nullValue => "NOT NULL constraint failed: kv.v"
  | lockClause => "near \"FOR\": syntax error"
  | unknownStatement => "syntax error"
  | nestedTransaction => "cannot start a transaction within a transaction"
  | nothingToCommit => "cannot commit - no transaction is active"
  | nothingToRollBack => "cannot rollback - no transaction is active"
  | locked => "database is locked"

/-- The code of a fault. -/
def code : Fault → Nat
  | duplicateKey => 1555
  | nullValue => 1299
  | locked => 5
  | _ => 1

/-- A fault as a failure. -/
def toFailure (f : Fault) : Failure := (DriverFault.database f.message (some (toString f.code))).toFailure

end Fault

namespace Table

/-- The text under a key. -/
def get? (t : Table) (key : Int) : Option String := t.lookup key

/-- A row in its place among the others. -/
def place (key : Int) (value : String) : Table → Table
  | [] => [(key, value)]
  | (k, v) :: r => if key < k then (key, value) :: (k, v) :: r else (k, v) :: place key value r

/-- The table with one more row. -/
def insert (t : Table) (e : Record) : Except Fault Table :=
  match e.value with
  | none => .error .nullValue
  | some v => if (t.get? e.key).isSome then .error .duplicateKey else .ok (t.place e.key v)

/-- The table with more rows. -/
def insertAll (t : Table) (records : List Record) : Except Fault Table := records.foldlM insert t

/-- The table with another text under a key, where there is one. -/
def update (t : Table) (e : Record) : Except Fault Table :=
  match e.value with
  | none => if (t.get? e.key).isSome then .error .nullValue else .ok t
  | some v => .ok (t.map fun (k, old) => if k = e.key then (k, v) else (k, old))

/-- The table without a key. -/
def erase (t : Table) (key : Int) : Table := t.filter (·.1 ≠ key)

end Table

end SqlSession.Sqlite.KeyValue
