import SqlSession.Column

/-! # Rows

A row holds one column of each name, in the order in which the names first came, and an index that tells
where each name is.  Equality of rows looks neither at that order nor at the index.  Each getter of a
column has two forms on a row: an optional one, for which a missing column is a null, and a required
one, for which a missing column, a null and an empty value are the same failure.
-/

namespace SqlSession

/-- Columns of different names, and where each name is. -/
structure Row where
  columns : List Column
  /-- The position of each name. -/
  index : List (String × Nat)
  /-- The index has a position under a name exactly if the column there has that name. -/
  lookup_index : ∀ name i, index.lookup name = some i ↔ columns[i]?.map Column.name = some name
deriving DecidableEq, Repr

namespace Row

/-- The row without columns. -/
def empty : Row := ⟨[], [], by simp⟩

/-- A column in the place of one of its name leaves the index right. -/
theorem lookup_index_set (r : Row) {c : Column} {i : Nat} (h : r.index.lookup c.name = some i)
    (name : String) (j : Nat) :
    r.index.lookup name = some j ↔ (r.columns.set i c)[j]?.map Column.name = some name := by
  have hi := (r.lookup_index _ _).1 h
  rw [r.lookup_index, List.getElem?_set]
  split
  · subst j
    cases hc : r.columns[i]? with
    | none =>
        rw [hc] at hi
        cases hi
    | some d =>
        obtain ⟨hlt, -⟩ := List.getElem?_eq_some_iff.1 hc
        have hname : d.name = c.name := by simpa [hc] using hi
        simp [hlt, hname]
  · rfl

/-- A column of a new name at the end, indexed there, leaves the index right. -/
theorem lookup_index_concat (r : Row) {c : Column} (h : r.index.lookup c.name = none)
    (name : String) (i : Nat) :
    ((c.name, r.columns.length) :: r.index).lookup name = some i ↔
      (r.columns ++ [c])[i]?.map Column.name = some name := by
  have hi := r.lookup_index name i
  rw [List.lookup_cons, List.getElem?_append]
  split
  · rename_i he
    obtain rfl : name = c.name := eq_of_beq he
    split
    · rename_i hlt
      rw [← hi, h]
      simp [Nat.ne_of_gt hlt]
    · rename_i hle
      rw [Option.some.injEq, List.getElem?_singleton]
      split <;> simp <;> omega
  · rename_i hne
    have hne : c.name ≠ name := fun e => by simp [e] at hne
    rw [hi]
    split
    · rfl
    · rename_i hle
      rw [List.getElem?_eq_none (by omega), List.getElem?_singleton]
      split <;> simp [hne]

/-- A row with one more column, which replaces the one of its name in place. -/
def put (r : Row) (c : Column) : Row :=
  match h : r.index.lookup c.name with
  | some i => ⟨r.columns.set i c, r.index, r.lookup_index_set h⟩
  | none =>
    ⟨r.columns ++ [c], (c.name, r.columns.length) :: r.index, r.lookup_index_concat h⟩

/-- The row of a list of columns, put one after the other. -/
def ofColumns (cs : List Column) : Row := cs.foldl put empty

def size (r : Row) : Nat := r.columns.length

def isEmpty (r : Row) : Bool := r.columns.isEmpty

def names (r : Row) : List String := r.columns.map Column.name

/-- The column of a name. -/
def get? (r : Row) (name : String) : Option Column := (r.index.lookup name).bind (r.columns[·]?)

/-- Equality of rows: the same names, each with equal values. -/
def same (r s : Row) : Bool :=
  r.size == s.size && r.columns.all fun c => match s.get? c.name with
    | some d => c.same d
    | none => false

/-- A getter on a column that may be missing. -/
def optional (r : Row) (name : String) (getter : Column → Except Failure (Option α)) :
    Except Failure (Option α) :=
  match r.get? name with
  | some c => getter c
  | none => .ok none

/-- A getter on a column that must hold something. -/
def required (r : Row) (name : String) (getter : Column → Except Failure (Option α)) :
    Except Failure α :=
  match (r.get? name).filter (!·.value.isEmpty) with
  | none => .error (.requiredEmpty name)
  | some c =>
    match getter c with
    | .ok (some a) => .ok a
    | .ok none => .error (.requiredEmpty name)
    | .error e => .error e

/-- A row as a JSON object, its columns in order. -/
def toJson (r : Row) : Json := .obj (r.columns.map fun c => (c.name, c.value.toJson))

end Row

end SqlSession
