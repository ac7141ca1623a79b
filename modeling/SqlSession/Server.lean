import SqlSession.Context
import SqlSession.Param
import SqlSession.RowSet

/-! # Calls to a database server

The calls that a session makes, and how a server reacts: after some time it answers, fails, panics,
or never ends.  A `Server` is any rule that reacts to a call from a state of its own.
-/

namespace SqlSession

/-- Where a statement runs. -/
inductive Target where
  /-- On no connection that a context holds. -/
  | oneShot
  | conn (c : ConnId)
deriving DecidableEq, Repr

/-- A call to the server. -/
inductive Call where
  /-- Check out a new connection. -/
  | acquire
  /-- Check the server without a connection of the caller's. -/
  | pingServer
  | ping (c : ConnId)
  | begin (c : ConnId)
  | commit (c : ConnId)
  | rollback (c : ConnId)
  /-- Hand a connection back to the pool. -/
  | release (c : ConnId)
  /-- Close a connection in good order, without handing it back. -/
  | close (c : ConnId)
  /-- Drop a connection without handing it back. -/
  | discard (c : ConnId)
  | fetch (target : Target) (sql : String) (params : List Param)
  | execute (target : Target) (sql : String) (params : List Param)
deriving Repr

namespace Target

/-- The connection a statement runs on, if it is one of the caller's. -/
def conn? : Target → Option ConnId
  | oneShot => none
  | conn c => some c

/-- The target of the statements of a context. -/
def ofHandle (h : Handle) : Target :=
  match h.conn? with
  | some c => conn c
  | none => oneShot

end Target

namespace Call

/-- The connection that a call is made on. -/
def conn? : Call → Option ConnId
  | acquire => none
  | pingServer => none
  | ping c => some c
  | begin c => some c
  | commit c => some c
  | rollback c => some c
  | release c => some c
  | close c => some c
  | discard c => some c
  | fetch t _ _ => t.conn?
  | execute t _ _ => t.conn?

end Call

/-- What a call gives when it succeeds: rows for a fetch, a count for an execute. -/
structure Reply where
  rows : RowSet
  affected : Nat
deriving DecidableEq, Repr, Inhabited

namespace Reply

/-- A reply that says no more than success. -/
def done : Reply := ⟨.new [], 0⟩

end Reply

/-- What a panic carries. -/
inductive Payload where
  | text (s : String)
  | other
deriving DecidableEq, Repr

namespace Payload

/-- The message of a panic. -/
def message : Payload → String
  | text s => s
  | other => "unknown panic"

end Payload

/-- How a call ends. -/
inductive Ending where
  | reply (r : Reply)
  | failure (f : Failure)
  | panic (p : Payload)
  | never
deriving DecidableEq, Repr

/-- How a call ends, and after how many milliseconds. -/
structure Reaction where
  delay : Nat
  ending : Ending
deriving DecidableEq, Repr

/-- A call as its caller saw it: when it was made, until when it was waited for, and how it ended by
then.  A call that was given up has no end. -/
structure RoundTrip where
  call : Call
  started : Instant
  left : Instant
  ending : Ending
deriving Repr

namespace RoundTrip

/-- Whether the call was answered in time. -/
def succeeded (t : RoundTrip) : Bool :=
  match t.ending with
  | .reply _ => true
  | _ => false

end RoundTrip

/-- A rule that reacts to calls from a state. -/
structure Server (σ : Type) where
  react : σ → Call → Reaction × σ
  /-- The state after a connection was dropped without a call. -/
  abandon : σ → ConnId → σ

end SqlSession
