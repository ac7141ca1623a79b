import SqlSession.Service.Connection

/-! # Transactions

A begin on a context without a transaction starts one, after acquiring a verified connection if the
context holds none; every further begin joins it.  Only the commit that matches the first begin reaches
the server.  A rollback ends the whole transaction at any level.  `withTransaction` runs a body between
a begin and the commit or rollback that the body's ending calls for.
-/

namespace SqlSession.Service

variable (s : Service σ)

/-- The failure of a state that the service's own operations do not produce. -/
def lostConnection : Failure := .internal "context lost its connection"

/-- Starts the transaction of a context that holds a connection. -/
def startTransaction (ctx : Context) (acquired : Bool) : Act σ Unit := do
  let b ← budget ctx.deadline s.settings.writeSecs
  match ctx.handle.conn? with
  | none => Act.fail lostConnection
  | some c =>
    match ← Act.attempt (s.server.callWithin b "begin" (.begin c)) with
    | .ok _ =>
      Act.store { ctx with handle := .transaction c, level := 1 }
      Act.log (.transactionStarted ctx.id)
    | .error f =>
      if acquired then
        Act.store { ctx with handle := .detached }
        s.server.discard c
      Act.fail f

/-- Joins the transaction of a context. -/
def joinTransaction (ctx : Context) : Act σ Unit := do
  if !ctx.handle.inTransaction then
    Act.fail (.transaction "nesting level set without an active transaction" ctx.id)
  else
    Act.store { ctx with level := ctx.level + 1 }
    Act.log (.transactionJoined ctx.id (ctx.level + 1))

/-- A begin on a context, panics not caught. -/
def beginUnguarded (id : String) : Act σ Unit := do
  let ctx ← Act.context id
  if ctx.handle.isDetached then
    let c ← s.acquireVerified ctx.deadline
    Act.store { ctx with handle := .connection c }
  let held ← Act.context id
  if held.level = 0 then s.startTransaction held ctx.handle.isDetached
  else joinTransaction held

/-- Discards what a context holds while its state is unknown. -/
def discardUnknown (id : String) : Act σ Unit := do
  let ctx ← Act.context id
  if ctx.level = 0 then
    match ctx.handle.conn? with
    | some c =>
      Act.store { ctx with handle := .detached }
      s.server.discard c
    | none => pure ()

/-- Begins a transaction, or joins the open one.  A panic is reported as a failed begin. -/
def begin (id : String) : Act σ Unit :=
  s.observe "begin" do
    match ← Act.settle (s.beginUnguarded id) with
    | .value () => pure ()
    | .failure f => Act.fail f
    | .panic p =>
      Act.log (.panicWhileBeginning id p.message)
      s.discardUnknown id
      Act.fail (.transaction ("begin failed: " ++ p.message) id)

/-- Hands back the connection after the server has committed. -/
def releaseCommitted (id : String) (c : ConnId) : Act σ Unit := do
  match ← Act.attempt (s.server.call (.release c)) with
  | .ok _ => pure ()
  | .error f =>
    Act.log (.releaseFailed id f.message)
    Act.fail f

/-- Commits one nesting level; the outermost commit ends the transaction and hands back the
connection. -/
def commit (id : String) : Act σ Unit :=
  s.observe "commit" do
    let ctx ← Act.context id
    if ctx.level = 0 then Act.fail (.transaction "commit called without a matching begin" id)
    else if !ctx.handle.inTransaction then
      Act.fail (.transaction "no active transaction to commit" id)
    else if 1 < ctx.level then
      Act.store { ctx with level := ctx.level - 1 }
      Act.log (.nestedCommit id (ctx.level - 1))
    else
      let b ← budget ctx.deadline s.settings.writeSecs
      match ctx.handle.conn? with
      | none => Act.fail lostConnection
      | some c =>
        let _ ← s.server.callWithin b "commit" (.commit c)
        Act.log (.transactionCommitted id)
        Act.store { ctx with handle := .detached, level := 0 }
        s.releaseCommitted id c

/-- Rolls back the whole transaction at any level, and does nothing without one.  The context is
detached in any case; a connection whose rollback failed is discarded. -/
def rollback (id : String) : Act σ Unit :=
  s.observe "rollback" do
    let ctx ← Act.context id
    if ctx.level = 0 then pure ()
    else if !ctx.handle.inTransaction then
      Act.fail (.transaction "no active transaction to roll back" id)
    else
      let b ← budget ctx.deadline s.settings.writeSecs
      match ctx.handle.conn? with
      | none =>
        Act.store { ctx with level := 0 }
        Act.log (.rollbackFailed id lostConnection.message)
        Act.fail lostConnection
      | some c =>
        let ended ← Act.attempt (s.server.callWithin b "rollback" (.rollback c))
        Act.store { ctx with handle := .detached, level := 0 }
        match ended with
        | .ok _ =>
          Act.log (.transactionRolledBack id ctx.level)
          let _ ← s.server.call (.release c)
        | .error f =>
          Act.log (.rollbackFailed id f.message)
          s.server.discard c
          Act.fail f

/-- Ends a transaction as its body ended: a value is committed, a failure and a panic are rolled back
and passed on. -/
def conclude (id : String) : Settled α → Act σ α
  | .value a => do
    s.commit id
    return a
  | .failure f => do
    match ← Act.attempt (s.rollback id) with
    | .ok _ => Act.fail f
    | .error rollback => Act.fail (.rollbackFailed f rollback)
  | .panic p => do
    Act.log (.panicInTransaction id)
    match ← Act.attempt (s.rollback id) with
    | .ok _ => pure ()
    | .error f => Act.log (.rollbackAfterPanicFailed id f.message)
    Act.panic p

/-- Runs a body inside a transaction of a context. -/
def withTransaction (id : String) (body : Act σ α) : Act σ α := do
  s.begin id
  let ended ← Act.settle body
  s.conclude id ended

end SqlSession.Service
