import SqlSession.Sqlite.KeyValue.Query

/-! # A store with one table

A server whose database is one table.  A transaction works on a table of its own from its first change
on; a commit makes that table the committed one, and whatever else ends a transaction forgets it.  Two
transactions are never changing the table at once, and no change is committed while another transaction
has read.
-/

namespace SqlSession.Sqlite.KeyValue

/-- What an open transaction has done. -/
inductive Phase where
  | idle
  | reading
  /-- It has changed the table, or tried to. -/
  | writing (table : Table)
deriving DecidableEq, Repr

namespace Phase

def isWriting : Phase → Bool
  | writing _ => true
  | _ => false

/-- A transaction after it has read. -/
def afterRead : Phase → Phase
  | idle => reading
  | p => p

end Phase

/-- A database with one table. -/
structure Store where
  committed : Table
  /-- The open transactions, by connection. -/
  transactions : List (ConnId × Phase)
deriving DecidableEq, Repr

namespace Store

/-- An empty database. -/
def empty : Store := ⟨[], []⟩

/-- The transaction of a connection. -/
def phase? (s : Store) (c : Option ConnId) : Option Phase := c.bind (s.transactions.lookup ·)

/-- The transactions of other connections. -/
def others (s : Store) (c : Option ConnId) : List Phase :=
  (s.transactions.filter fun (d, _) => some d ≠ c).map Prod.snd

/-- The table as a connection sees it. -/
def view (s : Store) (c : Option ConnId) : Table :=
  match s.phase? c with
  | some (.writing t) => t
  | _ => s.committed

/-- A store in which the transaction of a connection, if it has one, has gone on. -/
def advance (s : Store) (c : Option ConnId) (f : Phase → Phase) : Store :=
  { s with transactions := s.transactions.map fun (d, p) => (d, if some d = c then f p else p) }

/-- A store in which a connection has no transaction. -/
def forget (s : Store) (c : ConnId) : Store :=
  { s with transactions := s.transactions.filter (·.1 ≠ c) }

/-- A store with another committed table, unless another transaction stands against the change. -/
def publish (s : Store) (c : Option ConnId) (t : Table) : Except Fault Store :=
  if t ≠ s.committed ∧ (s.others c).any (· ≠ .idle) then .error .locked
  else .ok { s with committed := t }

/-- Runs a statement that changes the table. -/
def write (s : Store) (c : Option ConnId) (q : Query) : Except Fault Nat × Store :=
  if (s.others c).any Phase.isWriting then (.error .locked, s)
  else
    let before := s.view c
    match q.apply before, s.phase? c with
    | .ok (after, n), some _ => (.ok n, s.advance c fun _ => .writing after)
    | .error f, some _ => (.error f, s.advance c fun _ => .writing before)
    | .ok (after, n), none =>
      match s.publish c after with
      | .ok t => (.ok n, t)
      | .error f => (.error f, s)
    | .error f, none => (.error f, s)

/-- Runs a statement. -/
def run (s : Store) (c : Option ConnId) (q : Query) : Except Failure Reply × Store :=
  match q.rows? (s.view c) with
  | some rows => (replyOfRows rows, s.advance c Phase.afterRead)
  | none =>
    let (ended, after) := s.write c q
    ((ended.mapError Fault.toFailure).map fun n => ⟨.new [], n⟩, after)

/-- Runs a statement given as a text. -/
def runText (s : Store) (c : Option ConnId) (sql : String) (params : List Param) :
    Except Failure Reply × Store :=
  match Query.ofText sql params with
  | .ok q => s.run c q
  | .error f => (.error f.toFailure, s)

/-- Opens a transaction. -/
def begin (s : Store) (c : ConnId) : Except Fault Store :=
  if (s.phase? (some c)).isSome then .error .nestedTransaction
  else .ok { s with transactions := s.transactions ++ [(c, .idle)] }

/-- Ends a transaction and keeps its changes. -/
def commit (s : Store) (c : ConnId) : Except Fault Store :=
  match s.phase? (some c) with
  | none => .error .nothingToCommit
  | some (.writing t) => (s.publish (some c) t).map (·.forget c)
  | some _ => .ok (s.forget c)

/-- Ends a transaction and forgets its changes. -/
def rollback (s : Store) (c : ConnId) : Except Fault Store :=
  if (s.phase? (some c)).isNone then .error .nothingToRollBack else .ok (s.forget c)

/-! ### As a server -/

/-- A call that changes the store and says no more than success. -/
def plain (s : Store) : Except Fault Store → Reaction × Store
  | .ok t => (⟨0, .reply .done⟩, t)
  | .error f => (⟨0, .failure f.toFailure⟩, s)

/-- A statement's reply as a reaction. -/
def answered : Except Failure Reply × Store → Reaction × Store
  | (.ok r, s) => (⟨0, .reply r⟩, s)
  | (.error f, s) => (⟨0, .failure f⟩, s)

/-- The reaction to a call. -/
def react (s : Store) : Call → Reaction × Store
  | .acquire | .pingServer | .ping _ => s.plain (.ok s)
  | .begin c => s.plain (s.begin c)
  | .commit c => s.plain (s.commit c)
  | .rollback c => s.plain (s.rollback c)
  | .release c | .close c | .discard c => s.plain (.ok (s.forget c))
  | .fetch t sql ps | .execute t sql ps => answered (s.runText t.conn? sql ps)

/-- The store as a server.  A connection that goes takes its open transaction with it. -/
def server : Server Store := ⟨react, forget⟩

end Store

end SqlSession.Sqlite.KeyValue
