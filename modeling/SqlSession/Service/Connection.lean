import SqlSession.Service.Basic

/-! # Connections of contexts

A connection is verified before it is used: it is acquired and then pinged, and of the candidates that
fail either step as many are tried as the settings allow.
-/

namespace SqlSession.Service

variable (s : Service σ)

/-- The failure after the last attempt at a connection. -/
def unreachable : Failure :=
  .connection "couldn't connect to database"
    "Check that the database server is running and reachable"

/-- One attempt at a verified connection.  Acquiring and pinging share one budget, and a candidate that
does not answer is discarded. -/
def tryConnect (deadline : Option Instant) : Act σ ConnId := do
  let b ← budget deadline s.settings.connectSecs
  let _ ← s.server.callWithin b "acquire" .acquire
  let c ← Server.handOut
  match ← Act.settle (s.server.callWithin b "ping" (.ping c)) with
  | .value _ => return c
  | .failure f =>
    s.server.discard c
    Act.fail f
  | .panic p =>
    s.server.drop c
    Act.panic p

/-- Up to `left` attempts at a verified connection, the next of which is number `next`. -/
def connectWithin (deadline : Option Instant) : (left next : Nat) → Act σ ConnId
  | 0, _ => do
    Act.log (.gaveUp s.settings.attempts)
    Act.fail unreachable
  | left + 1, next => do
    match ← Act.attempt (s.tryConnect deadline) with
    | .ok c => return c
    | .error f =>
      Act.log (.attemptFailed next s.settings.attempts f.message)
      connectWithin deadline left (next + 1)

/-- A verified connection. -/
def acquireVerified (deadline : Option Instant) : Act σ ConnId :=
  s.connectWithin deadline s.settings.attempts 1

/-- Replaces the context of an id; a connection that the old one held is dropped. -/
def replaceContext (c : Context) : Act σ Unit := do
  let old ← Act.context c.id
  Act.store c
  match old.handle.conn? with
  | some conn => s.server.drop conn
  | none => pure ()

/-- A new context with a verified connection, which takes the place of the one of its id. -/
def connection (id : String) : Act σ Unit := do
  let c ← s.observe "connection" do
    let c ← s.acquireVerified none
    Act.log (.connectionAcquired id)
    return c
  s.replaceContext { Context.detached id with handle := .connection c }

/-- Pings the context's connection, or the server when it holds none. -/
def testConnection (id : String) : Act σ Unit :=
  s.observe "ping" do
    let ctx ← Act.context id
    let b ← budget ctx.deadline s.settings.connectSecs
    let _ ← s.server.callWithin b "ping" <|
      match ctx.handle.conn? with
      | some c => .ping c
      | none => .pingServer

/-- Hands back the context's connection.  Not possible while a transaction is open. -/
def close (id : String) : Act σ Unit := do
  let ctx ← Act.context id
  if ctx.handle.inTransaction then
    Act.fail (.transaction "cannot close a context with an open transaction" id)
  else
    match ctx.handle.conn? with
    | none => pure ()
    | some c =>
      Act.store { ctx with handle := .detached }
      let _ ← s.server.call (.release c)
      Act.log (.connectionReleased id)

end SqlSession.Service
