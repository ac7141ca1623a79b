import SqlSession.Server
import SqlSession.Sqlite.KeyValue.Table
import SqlSession.Statement.Template

/-! # Statements of the table

The statements that the table understands, their text with a marker for each parameter, and the reading
of such a text with its parameters.  What a statement does is a function on the rows.
-/

namespace SqlSession.Sqlite.KeyValue

/-- A statement about the table. -/
inductive Query where
  | insert (records : List Record)
  | update (record : Record)
  | delete (key : Int)
  | clear
  | all
  | byKey (key : Int)
  | byKeys (keys : List Int)
  | byValue (value : Option String)
deriving DecidableEq, Repr

namespace Query

/-! ### Texts -/

/-- The start of a statement that adds rows. -/
def insertStart : String := "INSERT INTO kv (k, v) VALUES "

/-- The markers of one row. -/
def recordMarkers : String := "(?, ?)"

/-- Adds so many rows. -/
def insertText (n : Nat) : String := insertStart ++ ",".intercalate (List.replicate n recordMarkers)

def updateText : String := "UPDATE kv SET v = ? WHERE k = ?"

def deleteText : String := "DELETE FROM kv WHERE k = ?"

def clearText : String := "DELETE FROM kv"

def allText : String := "SELECT k, v FROM kv ORDER BY k"

def byKeyText : String := "SELECT k, v FROM kv WHERE k = ?"

def byValueText : String := "SELECT k, v FROM kv WHERE v = ?"

/-- What the markers take the place of in the statement that finds several keys. -/
def keysToken : String := "#"

def byKeysBase : String := "SELECT k, v FROM kv WHERE k IN (#) ORDER BY k"

/-- Finds so many keys. -/
def byKeysText (n : Nat) : String :=
  "SELECT k, v FROM kv WHERE k IN (" ++ ",".intercalate (List.replicate n "?") ++ ") ORDER BY k"

/-- A template that adds a row for each group. -/
def insertTemplate : Except Statement.Fault Statement.Template :=
  Statement.Template.between insertStart "" recordMarkers

/-- A template that finds a key for each group. -/
def byKeysTemplate : Except Statement.Fault Statement.Template :=
  Statement.Template.placeholder byKeysBase keysToken "?"

/-! ### Parameters -/

/-- An optional text as a parameter. -/
def valueParam : Option String → Param
  | none => .null
  | some s => .string s

/-- A key as a parameter. -/
def keyParam (key : Int) : Param := .int (Int64.ofInt key)

/-- A row as parameters. -/
def recordParams (e : Record) : List Param := [keyParam e.key, valueParam e.value]

/-- The key that a parameter is. -/
def keyOf? : Param → Option Int
  | .int i => some i.toInt
  | _ => none

/-- The optional text that a parameter is. -/
def valueOf? : Param → Option (Option String)
  | .null => some none
  | .string s => some (some s)
  | _ => none

/-- The rows that parameters are, two for each. -/
def recordsOf? : List Param → Option (List Record)
  | [] => some []
  | k :: v :: r => do
    let key ← keyOf? k
    let value ← valueOf? v
    return ⟨key, value⟩ :: (← recordsOf? r)
  | [_] => none

/-! ### Reading -/

/-- The statement of a text without a semicolon. -/
def ofBody? (body : String) (params : List Param) : Option Query :=
  if body = insertText (params.length / 2) then (recordsOf? params).map insert
  else if body = byKeysText params.length then (params.mapM keyOf?).map byKeys
  else if body = clearText then some clear
  else if body = allText then some all
  else
    match params with
    | [p] =>
      if body = deleteText then (keyOf? p).map delete
      else if body = byKeyText then (keyOf? p).map byKey
      else if body = byValueText then (valueOf? p).map byValue
      else none
    | [v, k] =>
      if body = updateText then do
        let key ← keyOf? k
        let value ← valueOf? v
        return update ⟨key, value⟩
      else none
    | _ => none

/-- The statement of a text, which may end in a semicolon. -/
def ofText (sql : String) (params : List Param) : Except Fault Query :=
  let body := (Statement.bodyOf sql.toList).1
  if Statement.endsInLockClause body then .error .lockClause
  else
    match ofBody? (String.ofList body) params with
    | some q => .ok q
    | none => .error .unknownStatement

/-! ### Meaning -/

/-- The rows that a statement gives, for one that reads. -/
def rows? (t : Table) : Query → Option Table
  | all => some t
  | byKey key => some (t.filter (·.1 = key))
  | byKeys keys => some (t.filter fun (k, _) => keys.contains k)
  | byValue value => some (t.filter fun (_, v) => some v = value)
  | _ => none

/-- The table after a statement, and how many rows it has changed. -/
def apply (t : Table) : Query → Except Fault (Table × Nat)
  | insert records => (t.insertAll records).map fun u => (u, records.length)
  | update e => (t.update e).map fun u => (u, t.countP (·.1 = e.key))
  | delete key => .ok (t.erase key, t.countP (·.1 = key))
  | clear => .ok ([], t.length)
  | _ => .ok (t, 0)

end Query

/-- A row as a driver reports it. -/
def driverRow (row : Int × String) : DriverRow :=
  ⟨["k", "v"], .ok [.int (Int64.ofInt row.1), .text row.2]⟩

/-- The reply to a statement that reads. -/
def replyOfRows (rows : Table) : Except Failure Reply :=
  (RowSet.ofDriverRows (rows.map driverRow)).map fun s => ⟨s, 0⟩

end SqlSession.Sqlite.KeyValue
