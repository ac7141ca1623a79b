import SqlSession.Pool.Slot
import SqlSession.Rehearsal.Step
import SqlSession.Sqlite.KeyValue.Store

/-! # Rehearsals on a table

Steps on a store with one table: by way of the access service, and on a connection in a slot of the
pool.
-/

namespace SqlSession.Rehearsal

open Sqlite.KeyValue (Record Query Store)

/-- One step by way of the access service. -/
inductive TableStep where
  | connection
  /-- Replaces the context by a detached one. -/
  | drop
  | test
  | close
  | begin
  | commit
  | rollback
  | put (e : Record)
  | set (e : Record)
  /-- As `set`, and the key must be there. -/
  | setOne (e : Record)
  | delete (key : Int)
  | clear
  | get (key : Int) (forUpdate : Bool)
  | getOne (key : Int) (forUpdate : Bool)
  | byValue (value : Option String) (forUpdate : Bool)
  | all (forUpdate : Bool)
  | putMany (records : List Record)
  | getMany (keys : List Int) (forUpdate : Bool)
  /-- Adds rows in a transaction of their own, which fails in the end if a message is given. -/
  | putTogether (records : List Record) (failure : Option String)

namespace TableStep

/-- A template with groups. -/
def filled (t : Except Statement.Fault Statement.Template) (forUpdate : Bool)
    (groups : List (List Param)) : Act σ Statement.Template :=
  Act.ofExcept <| ((do groups.foldlM Statement.Template.add ((← t).setForUpdate forUpdate)) :
    Except Statement.Fault Statement.Template).mapError Statement.Fault.toFailure

variable (s : Service σ) (id : String)

/-- Adds one row. -/
def putRecord (e : Record) : Act σ QueryResult :=
  s.execute id (Query.insertText 1) (Query.recordParams e)

/-- Adds rows one after the other. -/
def putEach : List Record → Act σ Unit
  | [] => pure ()
  | e :: r => do
    let _ ← putRecord s id e
    putEach r

/-- Adds rows, and fails afterwards if a message is given; gives their number. -/
def putThen (records : List Record) (failure : Option String) : Act σ Nat := do
  putEach s id records
  match failure with
  | some m => Act.fail (.invalidQuery m)
  | none => return records.length

/-- The act of a step on the context of an id. -/
def act : TableStep → Act σ StepValue
  | connection => do
    s.connection id
    return .none
  | drop => do
    s.replaceContext (Context.detached id)
    return .none
  | test => do
    s.testConnection id
    return .none
  | close => do
    s.close id
    return .none
  | begin => do
    s.begin id
    return .none
  | commit => do
    s.commit id
    return .none
  | rollback => do
    s.rollback id
    return .none
  | put e => return .result (← putRecord s id e)
  | set e =>
    return .result (← s.execute id Query.updateText [Query.valueParam e.value, Query.keyParam e.key])
  | setOne e =>
    return .result
      (← s.executeOne id Query.updateText [Query.valueParam e.value, Query.keyParam e.key])
  | delete key => return .result (← s.execute id Query.deleteText [Query.keyParam key])
  | clear => return .result (← s.execute id Query.clearText [])
  | get key lock => return .row (← s.selectUnique id Query.byKeyText lock [Query.keyParam key])
  | getOne key lock =>
    return .row (some (← s.selectUniqueNonEmpty id Query.byKeyText lock [Query.keyParam key]))
  | byValue v lock =>
    return .row (← s.selectUnique id Query.byValueText lock [Query.valueParam v])
  | all lock => return .result (← s.select id Query.allText lock [])
  | putMany records => do
    let t ← filled Query.insertTemplate false (records.map Query.recordParams)
    return .result (← s.executeTemplate id t)
  | getMany keys lock => do
    let t ← filled Query.byKeysTemplate lock (keys.map fun k => [Query.keyParam k])
    return .result (← s.selectTemplate id t)
  | putTogether records failure =>
    return .count (← s.withTransaction id (putThen s id records failure))

end TableStep

/-- What is seen after a step by way of the service. -/
structure TableAnswer where
  ended : Outcome StepValue
  context : Context
  committed : Sqlite.KeyValue.Table

/-- Plays steps, each on the context of an id. -/
def playTable (s : Service Store) (h : Host Store) : List (String × TableStep) → List TableAnswer
  | [] => []
  | (id, step) :: later =>
    let run := step.act s id h
    ⟨run.outcome, run.host.context id, run.host.server.committed⟩ :: playTable s run.host later

/-! ### On a connection -/

/-- One step on the slot of a connection. -/
inductive SlotStep where
  | acquire
  | ping
  | pingServer
  | control (c : Pool.Control)
  | put (e : Record)
  | clear
  | all
  | get (key : Int)
  | part (p : Pool.Parting)

/-- The value of a step on a slot. -/
inductive SlotValue where
  | none
  | affected (n : Nat)
  | rows (s : RowSet)

/-- An outcome with its value changed. -/
def mapOutcome (f : α → β) : Outcome α → Outcome β
  | .value a => .value (f a)
  | .failure e => .failure e
  | .panic p => .panic p
  | .hang => .hang

namespace SlotStep

/-- A slot after a step. -/
def play (slot : Pool.Slot Store) (step : SlotStep) : Outcome SlotValue × Pool.Slot Store :=
  let server := Store.server
  let execute (sql : String) (ps : List Param) :=
    let (ended, t) := slot.call server .sqlite fun c => .execute (.conn c) sql ps
    (mapOutcome (fun r => SlotValue.affected r.affected) ended, t)
  let fetch (sql : String) (ps : List Param) :=
    let (ended, t) := slot.call server .sqlite fun c => .fetch (.conn c) sql ps
    (mapOutcome (fun r => SlotValue.rows r.rows) ended, t)
  let plain {α : Type} (played : Outcome α × Pool.Slot Store) :=
    (mapOutcome (fun _ => SlotValue.none) played.1, played.2)
  match step with
  | acquire => plain (slot.fill server .sqlite)
  | ping => plain (slot.call server .sqlite .ping)
  | pingServer => plain (slot.pingServer server)
  | control c => plain (slot.control server .sqlite c)
  | put e => execute (Query.insertText 1) (Query.recordParams e)
  | clear => execute Query.clearText []
  | all => fetch Query.allText []
  | get key => fetch Query.byKeyText [Query.keyParam key]
  | part p => plain (slot.vacate server p)

end SlotStep

/-- What is seen after a step on a slot. -/
structure SlotAnswer where
  ended : Outcome SlotValue
  checkout : Option Pool.Checkout
  committed : Sqlite.KeyValue.Table

/-- Plays steps on a slot. -/
def playSlot (slot : Pool.Slot Store) : List SlotStep → List SlotAnswer
  | [] => []
  | step :: later =>
    let (ended, t) := step.play slot
    ⟨ended, t.held.map Prod.snd, t.host.server.committed⟩ :: playSlot t later

end SqlSession.Rehearsal
