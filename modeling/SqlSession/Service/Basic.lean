import SqlSession.Act

/-! # The access service

A service is a server together with its settings.  Each operation of the service that talks to the
server reports to the metrics sink once it is complete, and each round trip is bounded by the earlier
of the context's deadline and the configured timeout of its kind.
-/

namespace SqlSession

/-- The settings of a service. -/
structure Settings where
  /-- Attempts at a verified connection, at least one. -/
  attempts : Nat
  connectSecs : Nat
  readSecs : Nat
  writeSecs : Nat
  /-- What the operation names start with that the metrics sink gets. -/
  metricPrefix : String
  /-- Whether there is a metrics sink. -/
  metered : Bool
deriving DecidableEq, Repr

namespace Settings

/-- A whole number of seconds in diagnostic form. -/
def secondsText (n : Nat) : String := if n = 0 then "0ns" else s!"{n}s"

/-- The diagnostic form of a service, which shows its settings. -/
def debug (s : Settings) : String :=
  "AccessService \x7b " ++ ", ".intercalate [
    s!"max_connection_retries: {s.attempts}",
    "connect_timeout: " ++ secondsText s.connectSecs,
    "read_timeout: " ++ secondsText s.readSecs,
    "write_timeout: " ++ secondsText s.writeSecs,
    "metric_prefix: " ++ Text.quoted s.metricPrefix,
    ".. \x7d"]

end Settings

/-- A server under settings. -/
structure Service (σ : Type) where
  server : Server σ
  settings : Settings

namespace Service

/-- Instants from here on cannot be represented. -/
def clockLimit : Instant := Nat.pow 2 63 * 1000

/-- The largest number of seconds that a timeout reports. -/
def secsLimit : Nat := Nat.pow 2 32 - 1

/-- The budget of a round trip that starts now: until the earlier of a deadline and the end of a
timeout. -/
def budget (deadline : Option Instant) (secs : Nat) : Act σ Budget := fun h =>
  let stop := h.now + secs * 1000
  if clockLimit ≤ stop then
    ⟨.panic (.text "overflow when adding duration to instant"), h, []⟩
  else
    let earlier := match deadline with
      | some d => min d stop
      | none => stop
    ⟨.value ⟨earlier, min secs secsLimit⟩, h, []⟩

variable (s : Service σ)

/-- The sample of an operation that ended in a value or a failure. -/
def sampleOf (operation : String) : Outcome α → Option Sample
  | .value _ => some ⟨s.settings.metricPrefix ++ "." ++ operation, true, none⟩
  | .failure f => some ⟨s.settings.metricPrefix ++ "." ++ operation, false, f.code?⟩
  | _ => none

/-- Does an act and reports it to the metrics sink as an operation. -/
def observe (operation : String) (x : Act σ α) : Act σ α := fun h =>
  let run := x h
  let samples := if s.settings.metered then (s.sampleOf operation run.outcome).toList else []
  ⟨run.outcome, run.host, run.journal ++ samples.map Entry.sample⟩

end Service

end SqlSession
