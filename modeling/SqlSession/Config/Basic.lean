import SqlSession.Backend
import SqlSession.Json.Basic
import SqlSession.Number.Numeral
import SqlSession.Service.Basic

/-! # Configuration

The settings of the pool and of the access service, with their defaults, and their JSON form.  An
object gives any of the settings by name and an array the first so many in order; whatever is not given
has its default.  The password is read, and never written.
-/

namespace SqlSession

/-- Connection settings. -/
structure Config where
  databaseUrl : String
  /-- Overrides the user of the URL. -/
  user : Option String
  /-- Overrides the password of the URL. -/
  password : Option String
  maxOpen : Nat
  maxIdle : Nat
  lifetimeSecs : Nat
  idleSecs : Nat
  connectSecs : Nat
  readSecs : Nat
  writeSecs : Nat
  retries : Nat
  metricPrefix : String
deriving DecidableEq, Repr

namespace Config

/-- The defaults, without a URL. -/
def default : Config where
  databaseUrl := ""
  user := none
  password := none
  maxOpen := 10
  maxIdle := 1
  lifetimeSecs := 1800
  idleSecs := 600
  connectSecs := 10
  readSecs := 30
  writeSecs := 30
  retries := 3
  metricPrefix := "db"

/-- The defaults for a database. -/
def ofUrl (url : String) : Config := { default with databaseUrl := url }

/-- The system that the URL names. -/
def backend? (c : Config) : Option Backend := Backend.ofConnectionString? c.databaseUrl

/-- The settings of an access service. -/
def settings (c : Config) : Settings where
  attempts := max c.retries 1
  connectSecs := c.connectSecs
  readSecs := c.readSecs
  writeSecs := c.writeSecs
  metricPrefix := c.metricPrefix
  metered := true

/-! ### JSON -/

/-- The names of the settings, in order. -/
def fieldNames : List String :=
  ["database_url", "user", "password", "max_open_connections", "max_idle_connections",
    "conn_max_lifetime_secs", "idle_timeout_secs", "connect_timeout_secs", "read_timeout_secs",
    "write_timeout_secs", "max_connection_retries", "metric_prefix"]

/-- A text. -/
def text? : Json → Option String
  | .str s => some s
  | _ => none

/-- A text or nothing. -/
def optionalText? : Json → Option (Option String)
  | .null => some none
  | .str s => some (some s)
  | _ => none

/-- A natural number that a word of so many bits holds. -/
def word? (bits : Nat) : Json → Option Nat
  | .int i => if Number.fitsUnsigned bits i then some i.toNat else none
  | _ => none

/-- A configuration with the setting of a name replaced by what a JSON value gives; a name that is no
setting's changes nothing. -/
def set? (c : Config) (name : String) (v : Json) : Option Config :=
  match name with
  | "database_url" => (text? v).map fun s => { c with databaseUrl := s }
  | "user" => (optionalText? v).map fun s => { c with user := s }
  | "password" => (optionalText? v).map fun s => { c with password := s }
  | "max_open_connections" => (word? 32 v).map fun n => { c with maxOpen := n }
  | "max_idle_connections" => (word? 32 v).map fun n => { c with maxIdle := n }
  | "conn_max_lifetime_secs" => (word? 64 v).map fun n => { c with lifetimeSecs := n }
  | "idle_timeout_secs" => (word? 64 v).map fun n => { c with idleSecs := n }
  | "connect_timeout_secs" => (word? 64 v).map fun n => { c with connectSecs := n }
  | "read_timeout_secs" => (word? 64 v).map fun n => { c with readSecs := n }
  | "write_timeout_secs" => (word? 64 v).map fun n => { c with writeSecs := n }
  | "max_connection_retries" => (word? 32 v).map fun n => { c with retries := n }
  | "metric_prefix" => (text? v).map fun s => { c with metricPrefix := s }
  | _ => some c

/-- A configuration with several settings replaced. -/
def setAll? (c : Config) : List (String × Json) → Option Config
  | [] => some c
  | (name, v) :: r => c.set? name v >>= fun d => d.setAll? r

/-- The configuration of a JSON value.  A setting must not be given twice, and an array must not have
more items than there are settings. -/
def ofJson? : Json → Option Config
  | .obj members =>
    let given := (members.map Prod.fst).filter (· ∈ fieldNames)
    if given.Nodup then default.setAll? members else none
  | .arr items =>
    if items.length ≤ fieldNames.length then default.setAll? (fieldNames.zip items) else none
  | _ => none

/-- An optional text in JSON. -/
def optionalJson : Option String → Json
  | none => .null
  | some s => .str s

/-- A configuration in JSON, without the password. -/
def toJson (c : Config) : Json :=
  .obj [("database_url", .str c.databaseUrl), ("user", optionalJson c.user),
    ("max_open_connections", .int c.maxOpen), ("max_idle_connections", .int c.maxIdle),
    ("conn_max_lifetime_secs", .int c.lifetimeSecs), ("idle_timeout_secs", .int c.idleSecs),
    ("connect_timeout_secs", .int c.connectSecs), ("read_timeout_secs", .int c.readSecs),
    ("write_timeout_secs", .int c.writeSecs), ("max_connection_retries", .int c.retries),
    ("metric_prefix", .str c.metricPrefix)]

end Config

end SqlSession
