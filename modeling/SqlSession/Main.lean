import SqlSession.CommandLine.Program
import SqlSession.Sqlite.KeyValue.Store

/-! # The command line

Reads arguments and environment variables, runs the program, and writes what it shows.  The databases
within reach are those that live in memory; every network server is out of reach.
-/

namespace SqlSession.Main

open CommandLine

/-- The version of the database in memory. -/
def memoryVersion : String := "3"

/-- A database in memory as an endpoint. -/
def memory : Endpoint Sqlite.KeyValue.Store :=
  ⟨.sqlite, Sqlite.KeyValue.Store.server, fun s => (.ok memoryVersion, s)⟩

/-- Which destinations answer. -/
def dial : Pool.Destination → Option Pool.ConnectFault
  | .sqlite o => Pool.openNew (fun _ => false) o
  | _ => some (.unreachable "Connection refused (os error 111)")

/-- The environment variables that the program looks at. -/
def environment : IO (List (String × String)) := do
  let names := Invocation.programOptions.filterMap (·.source?)
  let values ← names.mapM fun name => do return (name, ← IO.getEnv name)
  return values.filterMap fun (name, value) => value.map fun v => (name, v)

/-- A log record as a line. -/
def recordLine (r : LogRecord) : String := s!"{r.level.name} {r.target}: {r.message}"

/-- A log record in JSON. -/
def recordJson (r : LogRecord) : Json :=
  .obj [("level", .str r.level.name),
    ("fields", .obj (("message", .str r.message) :: r.fields.map fun (n, v) => (n, .str v))),
    ("target", .str r.target)]

/-- Writes what a run has logged. -/
def writeLog (i : Invocation) (records : List LogRecord) : IO Unit :=
  records.forM fun r =>
    if i.jsonLogs then IO.println (recordJson r).compact else IO.eprintln (recordLine r)

end SqlSession.Main

open SqlSession SqlSession.CommandLine in
/-- Runs the program and gives its exit code. -/
def main (args : List String) : IO UInt32 := do
  match Invocation.read args (← SqlSession.Main.environment) with
  | .error f =>
    match (Ending.refused f).output? with
    | some s => IO.print s
    | none => IO.eprintln s!"Usage: {programName} [OPTIONS] --database-url <URL> <COMMAND>"
    return UInt32.ofNat (Ending.refused f).exitCode
  | .ok i =>
    let t := Program.run SqlSession.Main.memory SqlSession.Main.dial i .empty
    SqlSession.Main.writeLog i (Program.shownLog i t)
    if let some s := t.ending.output? then IO.print s
    if let some e := t.ending.errorLine? then IO.eprintln e
    return UInt32.ofNat t.ending.exitCode
