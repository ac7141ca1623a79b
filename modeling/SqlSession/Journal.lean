import SqlSession.Server

/-! # The journal of a session

Everything that a session does for others to see, in order: its calls, the connections it drops, the
samples it reports to the metrics sink, and the events it logs.  A log record is what a log shows of
an event or of a sample.
-/

namespace SqlSession

/-- A completed operation as the metrics sink sees it. -/
structure Sample where
  operation : String
  succeeded : Bool
  code : Option String
deriving DecidableEq, Repr

/-- What a session logs. -/
inductive Event where
  | connectionAcquired (context : String)
  | attemptFailed (attempt limit : Nat) (error : String)
  | gaveUp (attempts : Nat)
  | connectionReleased (context : String)
  | panicWhileBeginning (context panic : String)
  | transactionStarted (context : String)
  | transactionJoined (context : String) (level : Nat)
  | nestedCommit (context : String) (level : Nat)
  | transactionCommitted (context : String)
  | releaseFailed (context error : String)
  | transactionRolledBack (context : String) (level : Nat)
  | rollbackFailed (context error : String)
  | panicInTransaction (context : String)
  | rollbackAfterPanicFailed (context error : String)
  | queryExecuted (context sql : String) (rows : Nat)
  | statementExecuted (context sql : String) (rows : Nat)
  /-- A pool is about to make its first connection; the URL is given as it is shown. -/
  | poolOpening (system shownUrl : String) (maxOpen : Nat)
  | versionTold (version : String)
  /-- A connection is handed back with its transaction open. -/
  | releasedInTransaction
  /-- A connection went out of use with its transaction open. -/
  | droppedInTransaction
  | programStarted (version shownUrl : String)
  | commandFailed (error : String)
deriving DecidableEq, Repr

/-- One entry of the journal. -/
inductive Entry where
  /-- A call, written down once it is left. -/
  | call (t : RoundTrip)
  /-- A connection went without a call. -/
  | dropped (c : ConnId)
  | sample (s : Sample)
  | event (e : Event)
deriving Repr

namespace Entry

def trip? : Entry → Option RoundTrip
  | call t => some t
  | _ => none

def call? (e : Entry) : Option Call := e.trip?.map RoundTrip.call

def sample? : Entry → Option Sample
  | sample s => some s
  | _ => none

end Entry

/-- The severity of a log record. -/
inductive Level where
  | error
  | warn
  | info
  | debug
  | trace
deriving DecidableEq, Repr

namespace Level

def name : Level → String
  | error => "ERROR"
  | warn => "WARN"
  | info => "INFO"
  | debug => "DEBUG"
  | trace => "TRACE"

/-- How much a level lets through: the verbose levels are the larger ones. -/
def verbosity : Level → Nat
  | error => 1
  | warn => 2
  | info => 3
  | debug => 4
  | trace => 5

end Level

/-- What a log shows. -/
structure LogRecord where
  level : Level
  target : String
  message : String
  fields : List (String × String)
deriving DecidableEq, Repr

namespace Event

/-- Where the events of the access service are logged. -/
def target : String := "db_access::db::service"

/-- Where the events of the pool are logged. -/
def poolTarget : String := "db_access::db::pool"

/-- Where the events of the program are logged. -/
def programTarget : String := "db_access"

/-- The record of an event. -/
def record : Event → LogRecord
  | connectionAcquired id => ⟨.debug, target, "Connection acquired", [("context_id", id)]⟩
  | attemptFailed n limit error =>
    ⟨.warn, target, "Connection attempt failed", [("attempt", toString n),
      ("max_attempts", toString limit), ("error", error)]⟩
  | gaveUp n => ⟨.error, target, "Giving up on database connection", [("attempts", toString n)]⟩
  | connectionReleased id => ⟨.debug, target, "Connection released", [("context_id", id)]⟩
  | panicWhileBeginning id panic =>
    ⟨.error, target, "Panic while beginning transaction", [("context_id", id), ("panic", panic)]⟩
  | transactionStarted id => ⟨.info, target, "Transaction started", [("context_id", id)]⟩
  | transactionJoined id level =>
    ⟨.debug, target, "Joined open transaction", [("context_id", id),
      ("nesting_level", toString level)]⟩
  | nestedCommit id level =>
    ⟨.debug, target, "Nested commit", [("context_id", id), ("nesting_level", toString level)]⟩
  | transactionCommitted id => ⟨.info, target, "Transaction committed", [("context_id", id)]⟩
  | releaseFailed id error =>
    ⟨.warn, target, "Failed to release connection after commit", [("context_id", id),
      ("error", error)]⟩
  | transactionRolledBack id level =>
    ⟨.info, target, "Transaction rolled back", [("context_id", id),
      ("nesting_level", toString level)]⟩
  | rollbackFailed id error =>
    ⟨.error, target, "Rollback failed", [("context_id", id), ("error", error)]⟩
  | panicInTransaction id =>
    ⟨.warn, target, "Panic inside transaction, rolling back", [("context_id", id)]⟩
  | rollbackAfterPanicFailed id error =>
    ⟨.error, target, "Rollback after panic failed", [("context_id", id), ("error", error)]⟩
  | queryExecuted id sql rows =>
    ⟨.debug, target, "Query executed", [("context_id", id), ("sql", sql),
      ("row_count", toString rows)]⟩
  | statementExecuted id sql rows =>
    ⟨.debug, target, "Statement executed", [("context_id", id), ("sql", sql),
      ("rows_affected", toString rows)]⟩
  | poolOpening system url maxOpen =>
    ⟨.info, poolTarget, "Creating connection pool", [("db_type", system), ("url", url),
      ("max_open", toString maxOpen)]⟩
  | versionTold version => ⟨.debug, poolTarget, "Got server version", [("version", version)]⟩
  | releasedInTransaction =>
    ⟨.warn, poolTarget, "Releasing a connection with an open transaction; closing it", []⟩
  | droppedInTransaction =>
    ⟨.warn, poolTarget,
      "Connection dropped with an open transaction; closing it instead of pooling", []⟩
  | programStarted version url =>
    ⟨.info, programTarget, "Starting db-access v" ++ version, [("url", url)]⟩
  | commandFailed error => ⟨.error, programTarget, "Command failed", [("error", error)]⟩

end Event

namespace Sample

/-- The outcome of the operation. -/
def outcome (s : Sample) : String := if s.succeeded then "success" else "error"

/-- The record of a sample. -/
def record (s : Sample) : LogRecord :=
  ⟨.debug, "db_access::metrics", "Database operation", [("operation", s.operation),
    ("outcome", s.outcome), ("error_code", Text.optionText (s.code.map Text.quoted))]⟩

end Sample

/-- What a log shows of an entry. -/
def Entry.record? : Entry → Option LogRecord
  | event e => some e.record
  | sample s => some s.record
  | _ => none

end SqlSession
