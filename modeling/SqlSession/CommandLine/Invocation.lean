import SqlSession.CommandLine.Reading
import SqlSession.Config.Validate

/-! # Invocations

What the program is asked to do: a command, the configuration of the database, and how to log.  Options
of the program stand before the command and options of the command after it.
-/

namespace SqlSession.CommandLine

/-- A command of the program. -/
inductive Command where
  /-- Check that a connection can be made. -/
  | ping
  /-- Run a statement that reads, and show its rows. -/
  | select (sql : String) (params : List String) (forUpdate unique : Bool)
  /-- Run a statement that writes, in a transaction. -/
  | execute (sql : String) (params : List String) (expectOne : Bool)
deriving DecidableEq, Repr

namespace Command

/-- The name on the command line. -/
def name : Command → String
  | ping => "ping"
  | select .. => "select"
  | execute .. => "execute"

/-- A list of texts in a diagnostic. -/
def quotedList (l : List String) : String := "[" ++ ", ".intercalate (l.map Text.quoted) ++ "]"

/-- A command for diagnostics. -/
def debug : Command → String
  | ping => "Ping"
  | select sql params forUpdate unique =>
    Text.recordText "Select" [("sql", Text.quoted sql), ("params", quotedList params),
      ("for_update", toString forUpdate), ("unique", toString unique)]
  | execute sql params expectOne =>
    Text.recordText "Execute" [("sql", Text.quoted sql), ("params", quotedList params),
      ("expect_one", toString expectOne)]

end Command

/-- What the program is asked to do. -/
structure Invocation where
  config : Config
  /-- Which events are logged. -/
  logLevel : String
  jsonLogs : Bool
  command : Command
deriving DecidableEq, Repr

namespace Invocation

/-! ### Grammars -/

/-- The option that asks for help. -/
def help : Switch := { name := "help", letter := some 'h', effect := .help }

/-- An option with one value, and its variable. -/
def setting (name source : String) (kind : ValueKind) : Switch :=
  { name, kind, source? := some source }

/-- The options of the program, in the order in which their variables are looked at. -/
def programOptions : List Switch :=
  [setting "database-url" "DB_URL" .text,
    setting "user" "DB_USER" .text,
    setting "password" "DB_PASSWORD" .text,
    setting "max-open-connections" "DB_MAX_OPEN_CONNECTIONS" .word32,
    setting "max-idle-connections" "DB_MAX_IDLE_CONNECTIONS" .word32,
    setting "conn-max-lifetime-secs" "DB_CONN_MAX_LIFETIME" .word64,
    setting "idle-timeout-secs" "DB_IDLE_TIMEOUT" .word64,
    setting "connect-timeout-secs" "DB_CONNECT_TIMEOUT" .word64,
    setting "read-timeout-secs" "DB_READ_TIMEOUT" .word64,
    setting "write-timeout-secs" "DB_WRITE_TIMEOUT" .word64,
    setting "max-connection-retries" "DB_MAX_CONNECTION_RETRIES" .word32,
    setting "metric-prefix" "DB_METRIC_PREFIX" .text,
    setting "log-level" "DB_LOG_LEVEL" .text,
    { setting "json-logs" "DB_JSON_LOGS" .truth with effect := .flag },
    help,
    { name := "version", letter := some 'V', effect := .version }]

/-- The grammar of the program. -/
def program : Grammar where
  options := programOptions
  commands := ["ping", "select", "execute", "help"]

/-- A parameter of a statement. -/
def param : Switch := { name := "param", letter := some 'p', effect := .many }

/-- A flag of a command. -/
def flag (name : String) : Switch := { name, effect := .flag, kind := .truth }

/-- The grammar of a command. -/
def grammarOf (command : String) : Grammar :=
  match command with
  | "select" =>
    { options := [param, flag "for-update", flag "unique", help], positionals := ["sql"] }
  | "execute" => { options := [param, flag "expect-one", help], positionals := ["sql"] }
  | _ => { options := [help] }

/-! ### Reading -/

/-- What comes of asking for help: help on the program, or on the one command named. -/
def helpFault : List String → Fault
  | [] => .help
  | [command] => if program.commands.contains command then .help else .unknownCommand
  | _ => .unknownCommand

/-- The command of a name and the words after it. -/
def readCommand (name : String) (words : List String) : Except Fault Command :=
  if name = "help" then .error (helpFault words)
  else do
    let g := grammarOf name
    let (r, _) ← Reading.start.words g words
    let r ← r.settle
    r.complete g
    let sql := r.positionals.headD ""
    match name with
    | "select" => return .select sql (r.texts "param") (r.isSet "for-update") (r.isSet "unique")
    | "execute" => return .execute sql (r.texts "param") (r.isSet "expect-one")
    | _ => return .ping

/-- The configuration that the options of the program give, for a URL. -/
def configOf (r : Reading) (url : String) : Config :=
  let base := Config.default
  { databaseUrl := url
    user := r.text? "user"
    password := r.text? "password"
    maxOpen := r.number "max-open-connections" base.maxOpen
    maxIdle := r.number "max-idle-connections" base.maxIdle
    lifetimeSecs := r.number "conn-max-lifetime-secs" base.lifetimeSecs
    idleSecs := r.number "idle-timeout-secs" base.idleSecs
    connectSecs := r.number "connect-timeout-secs" base.connectSecs
    readSecs := r.number "read-timeout-secs" base.readSecs
    writeSecs := r.number "write-timeout-secs" base.writeSecs
    retries := r.number "max-connection-retries" base.retries
    metricPrefix := (r.text? "metric-prefix").getD base.metricPrefix }

/-- The invocation that words and environment variables make.  The words after a command are read before
anything is said about those before it. -/
def read (words : List String) (environment : List (String × String)) : Except Fault Invocation := do
  let (r, rest) ← Reading.start.words program words
  let command ← rest.mapM fun (name, after) => readCommand name after
  let r ← r.settle
  let r ← r.fill environment programOptions
  match command with
  | none => .error (if r.values.isEmpty then .helpForNothing else .noCommand)
  | some command =>
    match r.text? "database-url" with
    | none => .error .missingArgument
    | some url =>
      return {
        config := configOf r url
        logLevel := (r.text? "log-level").getD "info"
        jsonLogs := r.isSet "json-logs"
        command }

end Invocation

end SqlSession.CommandLine
