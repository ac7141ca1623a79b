import SqlSession.Act
import SqlSession.Backend

/-! # Checked-out connections

A connection that has been checked out of the pool keeps account of whether it carries an open
transaction.  One that does is not handed back when its use ends: it is closed or detached, which makes
the server roll back.
-/

namespace SqlSession.Pool

/-- A statement that opens or ends a transaction. -/
inductive Control where
  | begin
  | commit
  | rollback
deriving DecidableEq, Repr

namespace Control

/-- The text of a control statement. -/
def sql : Control → String
  | begin => "BEGIN"
  | commit => "COMMIT"
  | rollback => "ROLLBACK"

end Control

/-- A connection in use. -/
structure Checkout where
  /-- What the pool has lent, until it is taken out. -/
  lent : Option Backend
  inTransaction : Bool
deriving DecidableEq, Repr

/-- How the use of a connection ends. -/
inductive Parting where
  | release
  | discard
  | drop
deriving DecidableEq, Repr

namespace Checkout

/-- A connection that has just been checked out. -/
def fresh (backend : Backend) : Checkout := ⟨some backend, false⟩

/-- What a call is made on, which must not have been taken out. -/
def inner (c : Checkout) : Except Failure Backend :=
  match c.lent with
  | some backend => .ok backend
  | none => .error (.internal "connection already released")

/-- A connection after a control statement, which counts only if it succeeded. -/
def afterControl (c : Checkout) (control : Control) (succeeded : Bool) : Checkout :=
  if succeeded then { c with inTransaction := control = .begin } else c

/-- What was lent, taken out, and the rest. -/
def take (c : Checkout) : Option Backend × Checkout := (c.lent, { c with lent := none })

section
variable (server : Server σ) (n : ConnId)

/-- A connection that is still lent when its account is gone is back in the pool. -/
def leftOver (c : Checkout) : Act σ Unit :=
  if c.lent.isSome then server.handBack n else pure ()

/-- Lets a connection go without a word.  One with an open transaction is taken out first. -/
def drop (c : Checkout) : Act σ Unit :=
  if c.inTransaction then
    match c.take with
    | (some _, rest) => do
      Act.log .droppedInTransaction
      server.discard n
      rest.leftOver server n
    | (none, rest) => rest.leftOver server n
  else c.leftOver server n

/-- Hands a connection back.  One with an open transaction is closed instead, which may fail.  The account
itself is let go afterwards. -/
def release (c : Checkout) : Act σ Unit :=
  match c.take with
  | (none, rest) => rest.drop server n
  | (some _, rest) =>
    if c.inTransaction then do
      Act.log .releasedInTransaction
      let ended ← Act.attempt (server.call (.close n))
      { rest with inTransaction := false }.drop server n
      let _ ← Act.ofExcept ended
    else do
      server.handBack n
      rest.drop server n

/-- Gives a connection up.  The account itself is let go afterwards. -/
def discard (c : Checkout) : Act σ Unit :=
  match c.take with
  | (some _, rest) => do
    server.discard n
    rest.drop server n
  | (none, rest) => rest.drop server n

/-- Ends the use of a connection. -/
def part (c : Checkout) : Parting → Act σ Unit
  | .release => c.release server n
  | .discard => c.discard server n
  | .drop => c.drop server n

end

/-- The diagnostic form. -/
def debug (c : Checkout) : String :=
  Text.recordText "SqlxConnection"
    [("db_type", Text.optionText (c.lent.map Backend.displayName)),
      ("in_transaction", if c.inTransaction then "true" else "false")]

end Checkout

end SqlSession.Pool
