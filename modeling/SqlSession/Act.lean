import SqlSession.Journal

/-! # Acts

An act is something that a session does to its host: the state of the server, the clock, and the
contexts.  It ends in a value, in a failure, in a panic, or not at all, and leaves a journal.  Acts are
chained by `>>=`, which goes on only after a value; `settle` turns a failure or a panic into a value,
so that what follows is done in any case.
-/

namespace SqlSession

/-- How an act ends. -/
inductive Outcome (α : Type) where
  | value (a : α)
  | failure (f : Failure)
  | panic (p : Payload)
  | hang
deriving DecidableEq, Repr

/-- How an act that ended has ended. -/
inductive Settled (α : Type) where
  | value (a : α)
  | failure (f : Failure)
  | panic (p : Payload)
deriving DecidableEq, Repr

/-- What acts work on. -/
structure Host (σ : Type) where
  /-- The state of the server. -/
  server : σ
  now : Instant
  /-- Connections handed out so far. -/
  handedOut : Nat
  contexts : List Context

namespace Host

/-- The context of an id, detached if there is none. -/
def context (h : Host σ) (id : String) : Context := Context.find id h.contexts

end Host

/-- What an act has done. -/
structure Run (σ α : Type) where
  outcome : Outcome α
  host : Host σ
  journal : List Entry

/-- Something that a session does. -/
def Act (σ α : Type) : Type := Host σ → Run σ α

namespace Act

protected def pure (a : α) : Act σ α := fun h => ⟨.value a, h, []⟩

/-- One act after the other, as long as they give values. -/
protected def bind (x : Act σ α) (k : α → Act σ β) : Act σ β := fun h =>
  let first := x h
  match first.outcome with
  | .value a =>
    let second := k a first.host
    ⟨second.outcome, second.host, first.journal ++ second.journal⟩
  | .failure f => ⟨.failure f, first.host, first.journal⟩
  | .panic p => ⟨.panic p, first.host, first.journal⟩
  | .hang => ⟨.hang, first.host, first.journal⟩

instance : Monad (Act σ) where
  pure := Act.pure
  bind := Act.bind

/-- Ends in a failure. -/
def fail (f : Failure) : Act σ α := fun h => ⟨.failure f, h, []⟩

/-- Ends in a panic. -/
def panic (p : Payload) : Act σ α := fun h => ⟨.panic p, h, []⟩

/-- A result as an act. -/
def ofExcept : Except Failure α → Act σ α
  | .ok a => pure a
  | .error f => fail f

/-- Reads something off the host. -/
def read (f : Host σ → α) : Act σ α := fun h => ⟨.value (f h), h, []⟩

/-- Changes the host. -/
def modify (f : Host σ → Host σ) : Act σ Unit := fun h => ⟨.value (), f h, []⟩

/-- Writes an entry into the journal. -/
def write (e : Entry) : Act σ Unit := fun h => ⟨.value (), h, [e]⟩

/-- Logs an event. -/
def log (e : Event) : Act σ Unit := write (.event e)

/-- The context of an id. -/
def context (id : String) : Act σ Context := read fun h => h.context id

/-- Stores a context under its id. -/
def store (c : Context) : Act σ Unit := modify fun h => { h with contexts := c.putInto h.contexts }

/-- Does an act and gives how it ended; an act that never ends is not helped. -/
def settle (x : Act σ α) : Act σ (Settled α) := fun h =>
  let run := x h
  match run.outcome with
  | .value a => ⟨.value (.value a), run.host, run.journal⟩
  | .failure f => ⟨.value (.failure f), run.host, run.journal⟩
  | .panic p => ⟨.value (.panic p), run.host, run.journal⟩
  | .hang => ⟨.hang, run.host, run.journal⟩

/-- Does an act and gives its failure as a value; panics pass. -/
def attempt (x : Act σ α) : Act σ (Except Failure α) := fun h =>
  let run := x h
  match run.outcome with
  | .value a => ⟨.value (.ok a), run.host, run.journal⟩
  | .failure f => ⟨.value (.error f), run.host, run.journal⟩
  | .panic p => ⟨.panic p, run.host, run.journal⟩
  | .hang => ⟨.hang, run.host, run.journal⟩

end Act

/-! ### Calls -/

namespace Ending

/-- The outcome of a call that ended so. -/
def outcome : Ending → Outcome Reply
  | reply r => .value r
  | failure f => .failure f
  | panic p => .panic p
  | never => .hang

end Ending

/-- The time that one round trip may take: a point in time, and the configured seconds that a timeout
reports. -/
structure Budget where
  deadline : Instant
  secs : Nat
deriving DecidableEq, Repr

namespace Server

variable (server : Server σ)

/-- Makes a call and waits for its end, however long it takes. -/
def call (c : Call) : Act σ Reply := fun h =>
  let (reaction, state) := server.react h.server c
  ⟨reaction.ending.outcome, { h with server := state, now := h.now + reaction.delay },
    [.call ⟨c, h.now, h.now + reaction.delay, reaction.ending⟩]⟩

/-- Makes a call and waits for its end until the deadline of a budget.  No call is made when the
deadline has been reached before; an end at the deadline itself still counts. -/
def callWithin (b : Budget) (operation : String) (c : Call) : Act σ Reply := fun h =>
  if b.deadline ≤ h.now then ⟨.failure (.timeout operation b.secs), h, []⟩
  else
    let (reaction, state) := server.react h.server c
    if reaction.ending = .never ∨ b.deadline < h.now + reaction.delay then
      ⟨.failure (.timeout operation b.secs), { h with server := state, now := b.deadline },
        [.call ⟨c, h.now, b.deadline, .never⟩]⟩
    else
      ⟨reaction.ending.outcome, { h with server := state, now := h.now + reaction.delay },
        [.call ⟨c, h.now, h.now + reaction.delay, reaction.ending⟩]⟩

/-- A connection that goes out of use is back in the pool.  Nothing can go wrong with it, and it takes no
time. -/
def handBack (c : ConnId) : Act σ Unit := fun h =>
  ⟨.value (), { h with server := (server.react h.server (.release c)).2 },
    [.call ⟨.release c, h.now, h.now, .reply .done⟩]⟩

/-- Drops a connection for good.  Nothing can go wrong with it, and it takes no time. -/
def discard (c : ConnId) : Act σ Unit := fun h =>
  ⟨.value (), { h with server := (server.react h.server (.discard c)).2 },
    [.call ⟨.discard c, h.now, h.now, .reply .done⟩]⟩

/-- A connection goes out of use without a call. -/
def drop (c : ConnId) : Act σ Unit := fun h =>
  ⟨.value (), { h with server := server.abandon h.server c }, [.dropped c]⟩

/-- The number of a connection that has just been checked out. -/
def handOut : Act σ ConnId := fun h =>
  ⟨.value (h.handedOut + 1), { h with handedOut := h.handedOut + 1 }, []⟩

end Server

end SqlSession
