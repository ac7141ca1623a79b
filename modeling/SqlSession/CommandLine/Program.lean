import SqlSession.CommandLine.Invocation
import SqlSession.LogFilter
import SqlSession.Pool.Connect
import SqlSession.Service.Statement
import SqlSession.Service.Transaction

/-! # The program

One run of the program: the configuration is checked, a pool connected, and the command done by way of
the access service.  A run ends with a text for its reader, or with a line that names what failed; what
it logs on the way is part of its transcript.
-/

namespace SqlSession.CommandLine

/-- The name of the program. -/
def programName : String := "db-access"

/-- The version of the program. -/
def programVersion : String := "0.1.0"

/-- A pool that commands are run on. -/
structure Endpoint (σ : Type) where
  backend : Backend
  server : Server σ
  /-- Asks the server for its version. -/
  version : σ → Except Failure String × σ

/-- How a run of the program ended. -/
inductive Ending where
  | finished (output : String)
  | failed (error : String)
  /-- The arguments make no invocation. -/
  | refused (fault : Fault)
  | crashed
deriving DecidableEq, Repr

namespace Ending

/-- The exit code of the program. -/
def exitCode : Ending → Nat
  | finished _ => 0
  | failed _ => 1
  | refused .help | refused .version => 0
  | refused _ => 2
  | crashed => 101

/-- What the program writes as its result; asked for its version, that is its name and version. -/
def output? : Ending → Option String
  | finished s => some s
  | refused .version => some s!"{programName} {programVersion}\n"
  | _ => none

/-- The line that names what failed. -/
def errorLine? : Ending → Option String
  | failed s => some ("Error: " ++ s)
  | _ => none

end Ending

/-- What is left of a run. -/
structure Transcript (σ : Type) where
  ending : Ending
  /-- Everything that happened, in order. -/
  journal : List Entry
  state : σ

namespace Program

/-- The name of the context that a command is run on. -/
def contextId : String := "command"

variable (e : Endpoint σ) (s : Service σ)

/-- The version of the server. -/
def askVersion : Act σ String := do
  let told ← fun h =>
    let (told, state) := e.version h.server
    ⟨.value told, { h with server := state }, []⟩
  let version ← Act.ofExcept told
  Act.log (.versionTold version)
  return version

/-- Checks that a connection can be made. -/
def ping : Act σ Json := do
  s.connection contextId
  s.testConnection contextId
  s.close contextId
  let version ← askVersion e
  return .obj [("db_type", .str e.backend.serialName), ("server_version", .str version),
    ("status", .str "ok")]

/-- Runs a statement that reads.  Locks hold only as long as a transaction, so it gets one if it is to
take locks. -/
def select (sql : String) (params : List Param) (forUpdate unique : Bool) : Act σ Json := do
  let result ←
    if forUpdate then s.withTransaction contextId (s.select contextId sql true params)
    else s.select contextId sql false params
  if unique then
    let row ← Act.ofExcept result.unique
    return (row.map Row.toJson).getD .null
  else return .arr (result.rows.map Row.toJson)

/-- Runs a statement that writes, in a transaction. -/
def execute (sql : String) (params : List Param) (expectOne : Bool) : Act σ Json := do
  let result ← s.withTransaction contextId <|
    if expectOne then s.executeOne contextId sql params else s.execute contextId sql params
  return result.toJson

/-- Runs a command; its value is what the program shows. -/
def command : Command → Act σ Json
  | .ping => ping e s
  | .select sql params forUpdate unique =>
    select s sql (params.map Param.ofLiteral) forUpdate unique
  | .execute sql params expectOne => execute s sql (params.map Param.ofLiteral) expectOne

/-- Lets the context of the command go. -/
def letGo : Act σ Unit := do
  let ctx ← Act.context contextId
  match ctx.handle with
  | .transaction c =>
    Act.log .droppedInTransaction
    s.server.drop c
  | .connection c => s.server.drop c
  | .detached => pure ()

/-- Connects and runs the command of an invocation whose configuration is sound. -/
def body (dial : Pool.Destination → Option Pool.ConnectFault) (i : Invocation) : Act σ Json := do
  Act.log (.programStarted programVersion i.config.maskedUrl)
  let (backend, url) ← Act.ofExcept (Pool.resolve i.config)
  Act.log (.poolOpening backend.displayName i.config.maskedUrl i.config.maxOpen)
  let _ ← Act.ofExcept (Pool.openFirst dial backend url)
  let ended ← Act.attempt (command e s i.command)
  letGo s
  match ended with
  | .ok shown => return shown
  | .error f =>
    Act.log (.commandFailed f.message)
    Act.fail f

/-- The ending of the program after its body. -/
def endingOf : Outcome Json → Ending
  | .value j => .finished (j.pretty ++ "\n")
  | .failure f => .failed f.debug
  | .panic _ | .hang => .crashed

/-- Runs an invocation on a server in a state.  Without a log filter the program does not start. -/
def run (dial : Pool.Destination → Option Pool.ConnectFault) (i : Invocation) (state : σ) :
    Transcript σ :=
  match LogFilter.ofString? i.logLevel, i.config.validate with
  | none, _ => ⟨.crashed, [], state⟩
  | some _, .error f => ⟨.failed (Text.quoted f.message), [], state⟩
  | some _, .ok () =>
    let done := body e ⟨e.server, i.config.settings⟩ dial i ⟨state, 0, 0, []⟩
    ⟨endingOf done.outcome, done.journal, done.host.server⟩

/-- The records that the log of a run shows. -/
def shownLog (i : Invocation) (t : Transcript σ) : List LogRecord :=
  match LogFilter.ofString? i.logLevel with
  | some filter => (t.journal.filterMap Entry.record?).filter filter.shows
  | none => []

end Program

end SqlSession.CommandLine
