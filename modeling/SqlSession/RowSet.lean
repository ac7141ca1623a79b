import SqlSession.Row

/-! # Row sets

The rows that a driver fetched: the column names once, then the values of each row, as many as there
are names.
-/

namespace SqlSession

/-- Fetched rows that share their column names. -/
structure RowSet where
  names : List String
  rows : List (List Value)
deriving DecidableEq, Repr, Inhabited

/-- A row as a driver reports it: column names of its own, and values, unless one of them cannot be
read. -/
structure DriverRow where
  names : List String
  values : Except Failure (List Value)
deriving Repr

namespace RowSet

/-- No rows yet under the given names. -/
def new (names : List String) : RowSet := ⟨names, []⟩

/-- A row pushed to the end, which must have as many values as there are names: whether it was taken, and
the row set after it. -/
def push (s : RowSet) (values : List Value) : Except Failure Unit × RowSet :=
  if values.length = s.names.length then (.ok (), ⟨s.names, s.rows ++ [values]⟩)
  else
    (.error (.internal
      s!"driver returned {values.length} values for {s.names.length} columns"), s)

/-- Rows pushed one after the other, up to the first that fails. -/
def pushAll (s : RowSet) : List (List Value) → Except Failure RowSet
  | [] => .ok s
  | values :: r =>
    match s.push values with
    | (.ok (), t) => t.pushAll r
    | (.error e, _) => .error e

/-- A row of a driver pushed to the end, once its values have been read. -/
def pushRow (s : RowSet) (row : DriverRow) : Except Failure RowSet := do
  let values ← row.values
  s.pushAll [values]

/-- The rows of a reply, up to the first that fails.  The first row gives the names; a reply without rows
has none. -/
def ofDriverRows (rows : List DriverRow) : Except Failure RowSet :=
  rows.foldlM pushRow (new ((rows.head?.map DriverRow.names).getD []))

def size (s : RowSet) : Nat := s.rows.length

def isEmpty (s : RowSet) : Bool := s.rows.isEmpty

/-- The values of one row under the names of a row set. -/
def rowOf (names : List String) (values : List Value) : Row :=
  Row.ofColumns (List.zipWith Column.mk names values)

/-- The rows with their columns named. -/
def decode (s : RowSet) : List Row := s.rows.map (rowOf s.names)

end RowSet

end SqlSession
