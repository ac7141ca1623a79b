import SqlSession.RowSet

/-! # Results of statements

A read has rows and no affected rows, a write has affected rows and no rows.
-/

namespace SqlSession

/-- What a statement gave. -/
structure QueryResult where
  affected : Nat
  rows : List Row
deriving DecidableEq, Repr

namespace QueryResult

/-- The result of a read. -/
def ofRows (rows : List Row) : QueryResult := ⟨0, rows⟩

/-- The result of a write. -/
def ofAffected (n : Nat) : QueryResult := ⟨n, []⟩

def rowCount (r : QueryResult) : Nat := r.rows.length

def isEmpty (r : QueryResult) : Bool := r.rows.isEmpty

/-- The only row, if there is one; more than one are a failure. -/
def unique (r : QueryResult) : Except Failure (Option Row) :=
  if r.rows.length ≤ 1 then .ok r.rows.head?
  else .error (.recordCount "at most 1" r.rows.length)

/-- A result in JSON. -/
def toJson (r : QueryResult) : Json :=
  .obj [("affected_rows", .int r.affected), ("rows", .arr (r.rows.map Row.toJson))]

end QueryResult

end SqlSession
