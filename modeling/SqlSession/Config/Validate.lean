import SqlSession.Config.Credentials
import SqlSession.Text.Blank

/-! # Checking and showing a configuration

The settings that cannot work together, in the order in which they are looked for, and the text of a
configuration for diagnostics.  Neither shows the password.
-/

namespace SqlSession

/-- What is wrong with a configuration. -/
inductive ConfigFault where
  | noUrl
  /-- The URL names no known system; it is given as it is shown. -/
  | unknownSystem (shownUrl : String)
  | noConnections
  | idleAboveOpen (idle maxOpen : Nat)
  | noAttempts
  | noTime
deriving DecidableEq, Repr

namespace ConfigFault

/-- The wording of a fault. -/
def message : ConfigFault → String
  | noUrl => "database_url must be set"
  | unknownSystem shownUrl => s!"unsupported database URL scheme: {shownUrl}"
  | noConnections => "max_open_connections must be greater than 0"
  | idleAboveOpen idle maxOpen =>
    s!"max_idle_connections ({idle}) cannot exceed max_open_connections ({maxOpen})"
  | noAttempts => "max_connection_retries must be greater than 0"
  | noTime => "timeouts must be greater than 0"

end ConfigFault

namespace Config

/-- The first fault of a configuration, if it has one. -/
def fault? (c : Config) : Option ConfigFault :=
  if (Text.trim c.databaseUrl.toList).isEmpty then some .noUrl
  else if c.backend?.isNone then some (.unknownSystem c.maskedUrl)
  else if c.maxOpen = 0 then some .noConnections
  else if c.maxIdle > c.maxOpen then some (.idleAboveOpen c.maxIdle c.maxOpen)
  else if c.retries = 0 then some .noAttempts
  else if c.connectSecs = 0 ∨ c.readSecs = 0 ∨ c.writeSecs = 0 then some .noTime
  else none

/-- Whether a configuration can be used, or what is wrong with it. -/
def validate (c : Config) : Except ConfigFault Unit :=
  match c.fault? with
  | none => .ok ()
  | some f => .error f

/-- The settings that a diagnostic shows, in order, each with its text. -/
def shownFields (c : Config) : List (String × String) :=
  [("database_url", Text.quoted c.maskedUrl), ("user", Text.optionText (c.user.map Text.quoted)),
    ("password", Text.optionText (c.password.map fun _ => Text.quoted mask)),
    ("max_open_connections", toString c.maxOpen), ("max_idle_connections", toString c.maxIdle),
    ("conn_max_lifetime_secs", toString c.lifetimeSecs), ("idle_timeout_secs", toString c.idleSecs),
    ("connect_timeout_secs", toString c.connectSecs), ("read_timeout_secs", toString c.readSecs),
    ("write_timeout_secs", toString c.writeSecs), ("max_connection_retries", toString c.retries),
    ("metric_prefix", Text.quoted c.metricPrefix)]

/-- A configuration for diagnostics. -/
def debug (c : Config) : String := Text.recordText "DbConfig" c.shownFields

end Config

end SqlSession
