import SqlSession.Mysql.Exchange
import SqlSession.Pool.Checkout
import SqlSession.Postgres.Exchange
import SqlSession.Server

/-! # A line to a network server

A server at the other end of a wire: it answers one statement after the other with the replies that it
has in store, and keeps what has been sent to it.  Control statements take no reply and succeed unless
they are refused.  What is sent, and how a reply is read, is the protocol of the system.
-/

namespace SqlSession.Pool

/-- How statements are exchanged with a system; `ρ` are its replies and `μ` its messages. -/
structure Protocol (ρ μ : Type) where
  backend : Backend
  /-- The message of a statement without parameters. -/
  simple : String → μ
  /-- The messages of a statement. -/
  messages : String → List Param → ρ → List μ
  fetch : List Param → ρ → Except Failure RowSet
  execute : List Param → ρ → Except Failure Nat
  /-- The messages of a statement that is prepared although it has no parameters. -/
  preparedMessages : String → ρ → List μ
  /-- The text that such a statement gives. -/
  scalarText : ρ → Except Failure String
  /-- The reply when there is none in store. -/
  blank : ρ

namespace Protocol

/-- The protocol of PostgreSQL. -/
def postgres : Protocol Postgres.Reply Postgres.Message where
  backend := .postgres
  simple := .simple
  messages := Postgres.messages
  fetch := Postgres.fetch
  execute := Postgres.execute
  preparedMessages sql := Postgres.preparedMessages sql []
  scalarText := Postgres.scalarText
  blank := ⟨[], [], "", none, none⟩

/-- The protocol of MySQL. -/
def mysql : Protocol Mysql.Reply Mysql.Message where
  backend := .mysql
  simple := .simple
  messages := Mysql.messages
  fetch := Mysql.fetch
  execute := Mysql.execute
  preparedMessages sql := Mysql.preparedMessages sql []
  scalarText := Mysql.scalarText
  blank := ⟨[], [], 0, none, none⟩

end Protocol

/-- The state of a line. -/
structure Line (ρ μ : Type) where
  /-- The replies in store. -/
  replies : List ρ
  /-- The control statements that fail. -/
  refusals : List (Control × Failure)
  /-- Why pings fail, if they do. -/
  pingFailure : Option Failure
  /-- What has been sent, in order. -/
  sent : List μ

namespace Line

variable (p : Protocol ρ μ)

/-- The next reply, and a line without it. -/
def next (l : Line ρ μ) : ρ × Line ρ μ :=
  match l.replies with
  | [] => (p.blank, l)
  | r :: later => (r, { l with replies := later })

/-- A line on which messages have been sent. -/
def send (l : Line ρ μ) (messages : List μ) : Line ρ μ := { l with sent := l.sent ++ messages }

/-- How a call ends that gives a reply or a failure. -/
def endingOf : Except Failure Reply → Ending
  | .ok r => .reply r
  | .error f => .failure f

/-- How a call ends that fails in a way or not. -/
def endingOf? : Option Failure → Ending
  | none => .reply .done
  | some f => .failure f

/-- Sends a statement and reads its reply. -/
def statement (l : Line ρ μ) (sql : String) (params : List Param)
    (read : List Param → ρ → Except Failure Reply) : Ending × Line ρ μ :=
  let (reply, rest) := l.next p
  (endingOf (read params reply), rest.send (p.messages sql params reply))

/-- Sends a control statement. -/
def control (l : Line ρ μ) (c : Control) : Ending × Line ρ μ :=
  (endingOf? (l.refusals.lookup c), l.send [p.simple c.sql])

/-- How a call ends, and the line after it. -/
def answer (l : Line ρ μ) : Call → Ending × Line ρ μ
  | .acquire => (.reply .done, l)
  | .pingServer | .ping _ => (endingOf? l.pingFailure, l)
  | .begin _ => l.control p .begin
  | .commit _ => l.control p .commit
  | .rollback _ => l.control p .rollback
  | .release _ | .close _ | .discard _ => (.reply .done, l)
  | .fetch _ sql ps => l.statement p sql ps fun ps r => (p.fetch ps r).map fun rows => ⟨rows, 0⟩
  | .execute _ sql ps =>
    l.statement p sql ps fun ps r => (p.execute ps r).map fun n => ⟨.new [], n⟩

/-- The server at the other end of a line. -/
def server : Server (Line ρ μ) :=
  ⟨fun l c => let (ending, after) := l.answer p c; (⟨0, ending⟩, after), fun l _ => l⟩

/-- The statement that asks for the version of a server. -/
def versionQuery : String := "SELECT version()"

/-- The version that the server tells. -/
def version (l : Line ρ μ) : Except Failure String × Line ρ μ :=
  let (reply, rest) := l.next p
  (p.scalarText reply, rest.send (p.preparedMessages versionQuery reply))

end Line

end SqlSession.Pool
