import SqlSession.Server

/-! # Scripted servers

A script says how a server reacts to each kind of call: by the next entry of the kind's queue, and with
immediate success when the queue is empty.
-/

namespace SqlSession.Rehearsal

/-- The kinds of calls that a script tells apart. -/
inductive CallKind where
  | acquire
  | ping
  | pingServer
  | begin
  | commit
  | rollback
  | fetch
  | execute
  | release
deriving DecidableEq, Repr

namespace CallKind

/-- The kind of a call; a close and a discard are not scripted. -/
def ofCall? : Call → Option CallKind
  | .acquire => some acquire
  | .pingServer => some pingServer
  | .ping _ => some ping
  | .begin _ => some begin
  | .commit _ => some commit
  | .rollback _ => some rollback
  | .fetch .. => some fetch
  | .execute .. => some execute
  | .release _ => some release
  | .close _ => none
  | .discard _ => none

end CallKind

/-- The reactions still to come, for each kind of call. -/
abbrev Script := CallKind → List Reaction

namespace Script

/-- The script of a server that always succeeds. -/
def empty : Script := fun _ => []

/-- A script with one queue replaced. -/
def set (s : Script) (kind : CallKind) (queue : List Reaction) : Script :=
  fun k => if k = kind then queue else s k

/-- A script with several queues replaced. -/
def setAll (s : Script) (queues : List (CallKind × List Reaction)) : Script :=
  queues.foldl (fun s (kind, queue) => s.set kind queue) s

/-- Immediate success. -/
def success : Reaction := ⟨0, .reply .done⟩

/-- The reaction to a call, and the script that is left. -/
def react (s : Script) (c : Call) : Reaction × Script :=
  match CallKind.ofCall? c with
  | none => (success, s)
  | some kind =>
    match s kind with
    | [] => (success, s)
    | r :: later => (r, s.set kind later)

/-- The server that plays a script. -/
def server : Server Script := ⟨react, fun s _ => s⟩

end Script

end SqlSession.Rehearsal
