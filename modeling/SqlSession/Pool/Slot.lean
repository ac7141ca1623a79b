import SqlSession.Pool.Checkout

/-! # A slot for a connection

A place that holds at most one checked-out connection of a pool.  It is filled when a connection is
needed, and emptied when the connection is released, discarded or dropped.
-/

namespace SqlSession.Pool

/-- A slot, and the host that connections come from. -/
structure Slot (σ : Type) where
  host : Host σ
  /-- What has been done on the host. -/
  journal : List Entry
  /-- The connection held, and its account. -/
  held : Option (ConnId × Checkout)

namespace Slot

/-- An empty slot over a server in a state. -/
def empty (state : σ) : Slot σ := ⟨⟨state, 0, 0, []⟩, [], none⟩

variable (server : Server σ) (backend : Backend)

/-- A slot after an act on its host. -/
def after (s : Slot σ) (x : Act σ α) : Outcome α × Slot σ :=
  let run := x s.host
  (run.outcome, { s with host := run.host, journal := s.journal ++ run.journal })

/-- What a call on the connection held is made on. -/
def inner (s : Slot σ) : Except Failure Unit :=
  match s.held with
  | some (_, checkout) => checkout.inner.map fun _ => ()
  | none => .ok ()

/-- A connection number for the slot: the one it holds, or a new one. -/
def fill (s : Slot σ) : Outcome ConnId × Slot σ :=
  match s.held with
  | some (c, _) => (.value c, s)
  | none =>
    match s.after (do let _ ← server.call .acquire; Server.handOut) with
    | (.value c, t) => (.value c, { t with held := some (c, .fresh backend) })
    | (o, t) => (o, t)

/-- Makes a call on the connection of the slot. -/
def call (s : Slot σ) (f : ConnId → Call) : Outcome Reply × Slot σ :=
  match s.fill server backend with
  | (.value c, t) => t.after (do
      let _ ← Act.ofExcept (t.inner)
      server.call (f c))
  | (.failure e, t) => (.failure e, t)
  | (.panic p, t) => (.panic p, t)
  | (.hang, t) => (.hang, t)

/-- The call of a control statement. -/
def controlCall : Control → ConnId → Call
  | .begin => .begin
  | .commit => .commit
  | .rollback => .rollback

/-- Whether an act ended in a value. -/
def succeeded : Outcome α → Bool
  | .value _ => true
  | _ => false

/-- Runs a control statement. -/
def control (s : Slot σ) (c : Control) : Outcome Reply × Slot σ :=
  let (ended, t) := s.call server backend (controlCall c)
  (ended, { t with
    held := t.held.map fun (n, checkout) => (n, checkout.afterControl c (succeeded ended)) })

/-- Checks the server without the connection of the slot. -/
def pingServer (s : Slot σ) : Outcome Reply × Slot σ := s.after (server.call .pingServer)

/-- Ends the use of the connection, if there is one. -/
def vacate (s : Slot σ) (parting : Parting) : Outcome Unit × Slot σ :=
  match s.held with
  | none => (.value (), s)
  | some (c, checkout) =>
    let (ended, t) := s.after (checkout.part server c parting)
    (ended, { t with held := none })

end Slot

end SqlSession.Pool
