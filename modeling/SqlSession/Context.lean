import SqlSession.Failure

/-! # Transaction contexts

A context is the handle for one unit of work.  It holds at most one connection, knows whether that
connection carries an open transaction, counts the unmatched begins, and carries the deadline of the
round trips made through it.
-/

namespace SqlSession

/-- A checked-out connection, numbered in the order of hand-out. -/
abbrev ConnId := Nat

/-- A point of time, in milliseconds since an arbitrary start. -/
abbrev Instant := Int

/-- What a context holds. -/
inductive Handle where
  | detached
  | connection (c : ConnId)
  /-- A connection with an open transaction. -/
  | transaction (c : ConnId)
deriving DecidableEq, Repr, Inhabited

namespace Handle

/-- The connection held. -/
def conn? : Handle → Option ConnId
  | detached => none
  | connection c => some c
  | transaction c => some c

/-- The name of the state of a handle. -/
def name : Handle → String
  | detached => "detached"
  | connection _ => "connection"
  | transaction _ => "transaction"

def isDetached : Handle → Bool
  | detached => true
  | _ => false

def inTransaction : Handle → Bool
  | transaction _ => true
  | _ => false

end Handle

/-- The handle for one unit of work. -/
structure Context where
  id : String
  handle : Handle
  /-- Begins not yet matched by a commit or a rollback. -/
  level : Nat
  deadline : Option Instant
deriving DecidableEq, Repr, Inhabited

namespace Context

/-- A context without connection, transaction and deadline. -/
def detached (id : String) : Context := ⟨id, .detached, 0, none⟩

/-- A context put in the place of the one of its id, or at the end. -/
def putInto (c : Context) : List Context → List Context
  | [] => [c]
  | d :: r => if d.id = c.id then c :: r else d :: c.putInto r

/-- The context of an id, detached if there is none. -/
def find (id : String) : List Context → Context
  | [] => detached id
  | c :: r => if c.id = id then c else find id r

/-- The diagnostic form, which shows the state of the handle and not the connection. -/
def debug (c : Context) : String :=
  Text.recordText "TxContext" [("id", "\"" ++ c.id ++ "\""), ("handle", Text.quoted c.handle.name),
    ("nesting_level", toString c.level),
    ("deadline", Text.optionText (c.deadline.map fun d => toString d ++ "ms"))]

end Context

end SqlSession
