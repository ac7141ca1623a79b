import SqlSession.Rehearsal.Script
import SqlSession.Service.Statement
import SqlSession.Service.Transaction

/-! # Steps of a rehearsal

A rehearsal plays a list of steps on named contexts against a scripted server.  A step operates on a
context, changes the clock, a deadline or the script, or runs further steps inside a transaction.
-/

namespace SqlSession.Rehearsal

/-- What a statement step asks of the result. -/
inductive StatementKind where
  | select
  | unique
  | nonEmpty
  | execute
  | executeOne
deriving DecidableEq, Repr

/-- The statement of a step. -/
inductive Request where
  | text (sql : String) (forUpdate : Bool) (params : List Param)
  | template (t : Statement.Template)
  /-- The template could not be made. -/
  | fault (f : Statement.Fault)

/-- One step.  Most name the context that they are about. -/
inductive Step where
  /-- A new detached context, perhaps with a deadline so many milliseconds from now. -/
  | context (name : String) (deadline : Option Int)
  | connection (name : String)
  /-- Sets a deadline so many milliseconds from now, or clears it. -/
  | deadline (name : String) (offset : Option Int)
  | sleep (ms : Nat)
  | script (queues : List (CallKind × List Reaction))
  | fail (f : Failure)
  | panic (p : Payload)
  | debug (name : String)
  | debugService
  | handedOut
  | test (name : String)
  | close (name : String)
  | begin (name : String)
  | commit (name : String)
  | rollback (name : String)
  | statement (name : String) (kind : StatementKind) (request : Request)
  /-- Steps inside a transaction, each with a mark whether the next ones follow even if it fails, and
  the value that the transaction gives. -/
  | transaction (name : String) (body : List (Bool × Step)) (value : Json)
  /-- A step of a kind that does not exist. -/
  | unknown (name kind : String)
deriving Inhabited

/-- The value of a step. -/
inductive StepValue where
  | none
  | result (r : QueryResult)
  | row (r : Option Row)
  | text (s : String)
  | count (n : Nat)
  | json (j : Json)

/-- What the answer to a step begins with. -/
inductive Reading where
  /-- The body of a transaction is entered. -/
  | entered
  | settled (s : Settled StepValue)

/-- What is seen after a step: how it ended, what has been called, reported and logged since the answer
before, every named context, the connections handed out and not given back, and the time. -/
inductive Answer where
  | mk (reading : Reading) (journal : List Entry) (contexts : List (String × Context))
    (connections : Int) (now : Instant) (inner : Option (List Answer))

/-- The text by which logs and failures name a context. -/
def idOf (name : String) : String := "<" ++ name ++ ">"

end SqlSession.Rehearsal
