import SqlSession.Proofs.Custody.Session
import SqlSession.Proofs.Transaction.Open

/-! # Turns on a context

A turn is a begin, a commit, a rollback or a statement.  The depth of its context and the handle say which
calls it makes, how it ends and what it leaves, as long as its calls are answered in time (`Turn.served`).
A turn does not count when the clock cannot hold the end of a timeout that it needs: it is stopped before it
gets to its calls (`Turn.stopped`). -/

namespace SqlSession

/-- The instant at which a begin has a connection: at once, or when it has acquired one. -/
def Service.connectedAt (s : Service σ) (id : String) (h : Host σ) : Instant :=
  if (h.context id).handle.isDetached then ((s.acquireVerified none).trace h).host.now else h.now

/-- What is done on a context in one turn. -/
inductive Turn where
  | begin
  | commit
  | rollback
  | statement (e : Errand)

namespace Turn

/-- The depth after a turn. -/
def next (depth : Nat) : Turn → Nat
  | begin => depth + 1
  | commit => depth - 1
  | rollback => 0
  | statement _ => depth

/-- The depth after turns, one after the other. -/
def depth (w : List Turn) : Nat := w.foldl next 0

/-- The calls of a turn at a depth, on a context with a handle, when `n` connections have been handed
out. -/
def calls (depth : Nat) (hd : Handle) (n : Nat) : Turn → List Call
  | begin =>
    if 0 < depth then []
    else match hd.conn? with
      | some c => [.begin c]
      | none => [.acquire, .ping (n + 1), .begin (n + 1)]
  | commit => if depth = 1 then hd.conn?.elim [] fun c => [.commit c, .release c] else []
  | rollback => if 0 < depth then hd.conn?.elim [] fun c => [.rollback c, .release c] else []
  | statement e =>
    match e.callAt (.ofHandle hd) with
    | .ok call => [call]
    | .error _ => []

/-- How a turn may end at a depth. -/
def Ends (id : String) (depth : Nat) (o : Outcome Unit) : Turn → Prop
  | commit =>
    if depth = 0 then o = .failure (.transaction "commit called without a matching begin" id)
    else o = .value ()
  | statement _ => True
  | _ => o = .value ()

/-- Whether the clock can hold the ends of the timeouts that a turn needs: those of the calls it makes. -/
def Counts (s : Service σ) (id : String) (h : Host σ) : Turn → Prop
  | begin => (h.context id).level = 0 →
    ((h.context id).handle.isDetached = true → Service.Holds h.now s.settings.connectSecs) ∧
      Service.Holds (s.connectedAt id h) s.settings.writeSecs
  | commit => (h.context id).level = 1 → Service.Holds h.now s.settings.writeSecs
  | rollback => 0 < (h.context id).level → Service.Holds h.now s.settings.writeSecs
  | statement e =>
    (e.callAt (.ofHandle (h.context id).handle)).isOk = true → Service.Holds h.now (s.secsFor e)

/-- The run of a turn that the clock stops.  A begin fails and leaves nothing in its context; the connection
of the context is discarded, as is one that has been acquired.  Anything else panics before its call. -/
def Stopped (s : Service σ) (id : String) (h : Host σ) (t : Trace σ Unit) : Turn → Prop
  | begin =>
    t.outcome = .failure (.transaction ("begin failed: " ++ clockFault.message) id) ∧
    t.host.context id = .vacant id none ∧ t.trips.map RoundTrip.call =
      match (h.context id).handle.conn? with
      | some c => [.discard c]
      | none => if Service.Holds h.now s.settings.connectSecs then
          [.acquire, .ping (h.handedOut + 1), .discard (h.handedOut + 1)]
        else []
  | _ => t = ⟨.panic clockFault, h, []⟩

/-- The context that a turn leaves, when `n` connections have been handed out before it. -/
def leaves (n : Nat) (x : Context) : Turn → Context
  | begin => .opened x.id (x.handle.conn?.getD (n + 1)) (x.level + 1) x.deadline
  | commit =>
    match x.level with
    | 0 => x
    | 1 => .vacant x.id x.deadline
    | n + 2 => { x with level := n + 1 }
  | rollback => if 0 < x.level then .vacant x.id x.deadline else x
  | statement _ => x

/-- Does a turn on a context. -/
def act (s : Service σ) (id : String) : Turn → Act σ Unit
  | begin => s.begin id
  | commit => s.commit id
  | rollback => s.rollback id
  | statement e => s.perform id e

instance decidableCounts {s : Service σ} {id : String} {h : Host σ} :
    ∀ x : Turn, Decidable (x.Counts s id h)
  | begin => inferInstanceAs (Decidable (_ → (_ → _) ∧ _))
  | commit => inferInstanceAs (Decidable (_ → _))
  | rollback => inferInstanceAs (Decidable (_ → _))
  | statement _ => inferInstanceAs (Decidable (_ → _))

theorem depth_concat (w : List Turn) (x : Turn) : depth (w ++ [x]) = x.next (depth w) := by
  simp only [depth, List.foldl_append, List.foldl_cons, List.foldl_nil]

end Turn

/-! ### Turns whose calls are answered in time -/

/-- Settings that leave some time for every call, and at least one attempt at a connection, as those of a
valid configuration do. -/
structure Settings.Positive (x : Settings) : Prop where
  attempts : 0 < x.attempts
  connectSecs : 0 < x.connectSecs
  readSecs : 0 < x.readSecs
  writeSecs : 0 < x.writeSecs

/-- A call that was answered in time.  An acquire leaves some of its time for the ping after it. -/
def RoundTrip.Timely (s : Service σ) (t : RoundTrip) : Prop :=
  t.succeeded = true ∧
    (t.call.isAcquire = true → t.left < t.started + s.settings.connectSecs * 1000)

/-- Whether all calls of a run were answered in time. -/
def Trace.Timely (s : Service σ) (r : Trace σ α) : Prop := ∀ t ∈ r.trips, t.Timely s

instance {s : Service σ} {t : RoundTrip} : Decidable (t.Timely s) :=
  inferInstanceAs (Decidable (_ ∧ (_ → _)))

instance {s : Service σ} {r : Trace σ α} : Decidable (r.Timely s) :=
  inferInstanceAs (Decidable (∀ t ∈ r.trips, t.Timely s))

namespace Trace.Timely

variable {s : Service σ} {r : Trace σ α}

theorem of_andThen {k : α → Host σ → Trace σ β} (hr : (r.andThen k).Timely s) : r.Timely s := by
  rcases r with ⟨o, h, l⟩
  cases o with
  | value a => exact fun t ht => hr t (List.mem_append_left _ ht)
  | _ => exact hr

theorem of_after {l : List RoundTrip} (hr : (r.after l).Timely s) : r.Timely s :=
  fun t ht => hr t (List.mem_append_right l ht)

end Trace.Timely

/-- A sound context without a deadline is in one of three states. -/
theorem Host.context_cases_of_none {h : Host σ} {id : String} (hs : (h.context id).Sound)
    (hd : (h.context id).deadline = none) : h.context id = .vacant id none ∨
      (∃ c, h.context id = .idle id c none) ∨ ∃ c n, h.context id = .opened id c (n + 1) none := by
  have hcases := hs.cases
  rw [h.id_context, hd] at hcases
  exact hcases

namespace Service

variable {s : Service σ} {h : Host σ} {id : String} {c : ConnId}

/-- The clock can hold the end of a budget, and there is no other deadline. -/
theorem trace_budget_none {secs : Nat} (hpos : 0 < secs) (hc : Holds h.now secs) :
    ∃ b : Budget, h.now < b.deadline ∧ b.deadline = h.now + secs * 1000 ∧
      (budget none secs : Act σ Budget).trace h = ⟨.value b, h, []⟩ := by
  rcases budget_cases none secs h with ⟨hc', _⟩ | ⟨_, b, hb, _, e⟩
  · exact absurd hc' (Int.not_le.mpr hc)
  · have hb : b.deadline = h.now + secs * 1000 := hb
    refine ⟨b, ?_, hb, by simp [Act.trace, Run.trips, e]⟩
    rw [hb]
    exact Int.lt_add_of_pos_right h.now (by omega)

/-- A bounded call that is made in time, and answered in time if it is made. -/
theorem trace_callWithin_of_timely {b : Budget} {operation : String} {call : Call}
    (hnow : h.now < b.deadline)
    (ht : ((s.server.callWithin b operation call).trace h).Timely s) :
    ∃ r t state, t.call = call ∧ t.Timely s ∧ t.started = h.now ∧
      (s.server.callWithin b operation call).trace h = ⟨.value r, h.afterTrip state t, [t]⟩ := by
  rcases s.server.callWithin_cases b operation call h with ⟨hlate, _⟩ | ⟨_, t, state, ha, _, e⟩
  · exact absurd hnow (Int.not_lt.mpr hlate)
  have hrun : (s.server.callWithin b operation call).trace h =
      ⟨t.outcome b operation, h.afterTrip state t, [t]⟩ := by
    simp [Act.trace, Run.trips, e, Entry.trip?]
  rw [hrun] at ht
  have htimely : t.Timely s := ht t List.mem_cons_self
  rcases t.outcome_cases b operation with ⟨_, r, hr⟩ | ⟨hf, _⟩ | ⟨hf, _⟩
  · rw [hr] at hrun
    exact ⟨r, t, state, ha.call_eq, htimely, ha.started_eq, hrun⟩
  · exact absurd htimely.1 (by simp [hf])
  · exact absurd htimely.1 (by simp [hf])

theorem trace_release_of_timely (ht : ((s.server.call (.release c)).trace h).Timely s) :
    ∃ r t state, t.call = .release c ∧
      (s.server.call (.release c)).trace h = ⟨.value r, h.afterTrip state t, [t]⟩ := by
  obtain ⟨t, state, ha, e⟩ := s.server.trace_call (.release c) h
  rw [e] at ht
  have hsucceeded : t.succeeded = true := (ht t List.mem_cons_self).1
  cases he : t.ending with
  | reply r => exact ⟨r, t, state, ha.call_eq, by rw [e, he]; rfl⟩
  | _ => simp [RoundTrip.succeeded, he] at hsucceeded

/-- An attempt at a connection whose calls are answered in time gives a connection. -/
theorem trace_tryConnect_of_timely (hs : s.settings.Positive)
    (hc : Holds h.now s.settings.connectSecs)
    (ht : ((s.tryConnect none).trace h).Timely s) :
    ∃ t u h', (s.tryConnect none).trace h = ⟨.value (h.handedOut + 1), h', [t, u]⟩ ∧
      t.call = .acquire ∧ u.call = .ping (h.handedOut + 1) := by
  obtain ⟨b, hnow, hb, hbudget⟩ := trace_budget_none hs.connectSecs hc
  simp only [tryConnect, Act.trace_bind, hbudget, Trace.andThen_value, Trace.after_nil] at ht ⊢
  obtain ⟨r, t, state, hcall, htt, hstarted, hacquire⟩ := trace_callWithin_of_timely hnow ht.of_andThen
  -- the ping has what the acquire has left of their time
  have hleft : t.left < b.deadline := by
    rw [hb, ← hstarted]
    exact htt.2 (by rw [hcall]; rfl)
  let h₁ : Host σ := { h.afterTrip state t with handedOut := h.handedOut + 1 }
  have hnow' : h₁.now < b.deadline := hleft
  simp only [hacquire, Trace.andThen_value, Server.trace_handOut, Trace.after_nil,
    Host.handedOut_afterTrip] at ht ⊢
  have hping : ((s.server.callWithin b "ping" (.ping (h.handedOut + 1))).trace h₁).Timely s := by
    have hrest := ht.of_after.of_andThen
    rw [Act.trace_settle] at hrest
    exact hrest
  obtain ⟨r', u, state', hcall', _, _, e⟩ := trace_callWithin_of_timely hnow' hping
  have hsettled : (Act.settle (s.server.callWithin b "ping" (.ping (h.handedOut + 1)))).trace h₁ =
      ⟨.value (.value r'), h₁.afterTrip state' u, [u]⟩ := by
    rw [Act.trace_settle]
    simp only [e]
    rfl
  refine ⟨t, u, h₁.afterTrip state' u, ?_, hcall, hcall'⟩
  change Trace.after (Trace.andThen ((Act.settle _).trace h₁) _) _ = _
  rw [hsettled]
  rfl

theorem trace_acquireVerified_of_timely (hs : s.settings.Positive)
    (hc : Holds h.now s.settings.connectSecs)
    (ht : ((s.acquireVerified none).trace h).Timely s) :
    ∃ t u h', (s.acquireVerified none).trace h = ⟨.value (h.handedOut + 1), h', [t, u]⟩ ∧
      t.call = .acquire ∧ u.call = .ping (h.handedOut + 1) := by
  obtain ⟨n, hn⟩ := Nat.exists_eq_succ_of_ne_zero (Nat.pos_iff_ne_zero.mp hs.attempts)
  simp only [acquireVerified, hn, connectWithin, Act.trace_bind, Act.trace_attempt] at ht ⊢
  have hfirst : ((s.tryConnect none).trace h).Timely s := ht.of_andThen
  obtain ⟨t, u, h', htry, hrest⟩ := trace_tryConnect_of_timely hs hc hfirst
  refine ⟨t, u, h', ?_, hrest⟩
  simp [htry, Outcome.attempted]

theorem trace_startTransaction_of_timely (hs : s.settings.Positive) (acquired : Bool)
    (hc : Holds h.now s.settings.writeSecs)
    (ht : ((s.startTransaction (.idle id c none) acquired).trace h).Timely s) :
    ∃ t state, t.call = .begin c ∧ (s.startTransaction (.idle id c none) acquired).trace h =
      ⟨.value (), (h.afterTrip state t).put (.opened id c 1 none), [t]⟩ := by
  obtain ⟨b, hnow, _, hbudget⟩ := trace_budget_none hs.writeSecs hc
  simp only [startTransaction, Context.idle, Handle.conn?, Act.trace_bind, hbudget, Trace.andThen_value,
    Trace.after_nil, Act.trace_attempt] at ht ⊢
  have hbegin : ((s.server.callWithin b "begin" (.begin c)).trace h).Timely s := ht.of_andThen
  obtain ⟨r, t, state, hcall, _, _, e⟩ := trace_callWithin_of_timely hnow hbegin
  refine ⟨t, state, hcall, ?_⟩
  simp [e, Outcome.attempted, Context.opened]

/-- An outermost commit commits and releases. -/
theorem trace_commit_of_timely (hs : s.settings.Positive) (hc : Holds h.now s.settings.writeSecs)
    (hx : h.context id = .opened id c 1 none) (ht : ((s.commit id).trace h).Timely s) :
    ∃ t u h', t.call = .commit c ∧ u.call = .release c ∧ h'.context id = .vacant id none ∧
      (s.commit id).trace h = ⟨.value (), h', [t, u]⟩ := by
  obtain ⟨b, hnow, _, hbudget⟩ := trace_budget_none hs.writeSecs hc
  have hsplit : (s.commit id).trace h = ((s.server.callWithin b "commit" (.commit c)).trace h).andThen
      fun _ h => (s.releaseCommitted id c).trace (h.put (.vacant id none)) := by
    simp [commit, hx, Context.opened, Context.vacant, Handle.inTransaction, Handle.conn?, hbudget]
  rw [hsplit] at ht
  obtain ⟨r, t, state, hcall, _, _, hcommit⟩ := trace_callWithin_of_timely hnow ht.of_andThen
  rw [hcommit, Trace.andThen_value, trace_releaseCommitted] at ht
  obtain ⟨r', u, state', hcall', hrelease⟩ := trace_release_of_timely ht.of_after.of_andThen
  refine ⟨t, u, ((h.afterTrip state t).put (.vacant id none)).afterTrip state' u, hcall, hcall',
    Host.context_put rfl, ?_⟩
  simp [hsplit, hcommit, trace_releaseCommitted, hrelease]

/-- A rollback of any depth rolls back and releases. -/
theorem trace_rollback_of_timely {n : Nat} (hs : s.settings.Positive)
    (hc : Holds h.now s.settings.writeSecs) (hx : h.context id = .opened id c (n + 1) none)
    (ht : ((s.rollback id).trace h).Timely s) :
    ∃ t u h', t.call = .rollback c ∧ u.call = .release c ∧ h'.context id = .vacant id none ∧
      (s.rollback id).trace h = ⟨.value (), h', [t, u]⟩ := by
  obtain ⟨b, hnow, _, hbudget⟩ := trace_budget_none hs.writeSecs hc
  have hfirst : ((s.server.callWithin b "rollback" (.rollback c)).trace h).Timely s := by
    have hwhole := ht
    simp [rollback, hx, Context.opened, Handle.inTransaction, Handle.conn?, hbudget] at hwhole
    exact hwhole.of_andThen
  obtain ⟨r, t, state, hcall, _, _, hrollback⟩ := trace_callWithin_of_timely hnow hfirst
  have hsplit : (s.rollback id).trace h = (((s.server.call (.release c)).trace
      ((h.afterTrip state t).put (.vacant id none))).andThen
        fun _ h => ⟨.value (), h, []⟩).after [t] := by
    simp [rollback, hx, Context.opened, Context.vacant, Handle.inTransaction, Handle.conn?, hbudget,
      hrollback, Outcome.attempted]
  rw [hsplit] at ht
  obtain ⟨r', u, state', hcall', hrelease⟩ := trace_release_of_timely ht.of_after.of_andThen
  refine ⟨t, u, ((h.afterTrip state t).put (.vacant id none)).afterTrip state' u, hcall, hcall',
    Host.context_put rfl, ?_⟩
  simp [hsplit, hrelease]

/-- A statement that resolves makes its call. -/
theorem trace_runAt_of_timely {target : Target} {e : Errand} {call : Call} (hs : s.settings.Positive)
    (hc : Holds h.now (s.secsFor e)) (he : e.callAt target = .ok call)
    (ht : ((s.runAt none target e).trace h).Timely s) :
    ∃ o t state, t.call = call ∧
      (s.runAt none target e).trace h = ⟨o, h.afterTrip state t, [t]⟩ := by
  have hpos : 0 < s.secsFor e := by
    unfold secsFor
    split
    · exact hs.readSecs
    · exact hs.writeSecs
  obtain ⟨b, hnow, _, hbudget⟩ := trace_budget_none hpos hc
  have hsplit : (s.runAt none target e).trace h =
      ((s.server.callWithin b e.operation call).trace h).andThen
        fun r => (Act.ofExcept (e.judge r)).trace := by
    simp [runAt, he, hbudget]
  rw [hsplit] at ht
  obtain ⟨r, t, state, hcall, _, _, hrun⟩ := trace_callWithin_of_timely hnow ht.of_andThen
  -- judging the reply makes no call
  obtain ⟨o, hjudged⟩ : ∃ o, (Act.ofExcept (e.judge r)).trace (h.afterTrip state t) =
      ⟨o, h.afterTrip state t, []⟩ := by
    cases e.judge r <;> exact ⟨_, rfl⟩
  refine ⟨o, t, state, hcall, ?_⟩
  rw [hsplit, hrun, Trace.andThen_value, hjudged]
  rfl

theorem trace_acquireVerified_of_not_holds (hpos : 0 < s.settings.attempts)
    (hc : ¬ Holds h.now s.settings.connectSecs) :
    (s.acquireVerified none).trace h = ⟨.panic clockFault, h, []⟩ := by
  obtain ⟨n, hn⟩ := Nat.exists_eq_succ_of_ne_zero (Nat.pos_iff_ne_zero.mp hpos)
  have hbudget := trace_budget_of_not_holds none hc
  simp [acquireVerified, hn, connectWithin, tryConnect, hbudget, Outcome.attempted]

theorem trace_beginUnguarded_of_lost {p : Payload} {h' : Host σ} {l : List RoundTrip}
    (hacq : (s.acquireVerified none).trace h = ⟨.panic p, h', l⟩)
    (ho : h.context id = .vacant id none) : (s.beginUnguarded id).trace h = ⟨.panic p, h', l⟩ := by
  simp [beginUnguarded, ho, Context.vacant, Handle.isDetached, hacq]

end Service

/-! ### One turn -/

namespace Turn

/-- The run of a turn that counts and whose calls are answered in time. -/
structure Served (id : String) (x : Turn) (h : Host σ) (t : Trace σ Unit) : Prop where
  calls_eq : t.trips.map RoundTrip.call =
    x.calls (h.context id).level (h.context id).handle h.handedOut
  ends : x.Ends id (h.context id).level t.outcome
  context_eq : t.host.context id = x.leaves h.handedOut (h.context id)
  unchanged : x = .commit → (h.context id).level = 0 → t.host = h

variable {s : Service σ} {h : Host σ} {id : String} {c : ConnId}

/-! A begin on a context without a transaction. -/

theorem timely_beginUnguarded (ht : ((s.begin id).trace h).Timely s) :
    ((s.beginUnguarded id).trace h).Timely s := by
  simp only [Service.begin, Service.trace_observe, Act.trace_bind, Act.trace_settle] at ht
  exact ht.of_andThen

theorem timely_acquireVerified (hx : h.context id = .vacant id none)
    (ht : ((s.begin id).trace h).Timely s) : ((s.acquireVerified none).trace h).Timely s := by
  have hun := timely_beginUnguarded ht
  simp only [Service.beginUnguarded, Act.trace_bind, Act.trace_context, hx, Context.vacant,
    Handle.isDetached, Trace.andThen_value, Trace.after_nil, if_true] at hun
  exact hun.of_andThen

theorem begin_acquires (hset : s.settings.Positive) (hx : h.context id = .vacant id none)
    (hc : Service.Holds h.now s.settings.connectSecs) (ht : ((s.begin id).trace h).Timely s) :
    ∃ t u h', t.call = .acquire ∧ u.call = .ping (h.handedOut + 1) ∧ h'.now = s.connectedAt id h ∧
      h'.context id = .idle id (h.handedOut + 1) none ∧ (s.beginUnguarded id).trace h =
        ((s.startTransaction (.idle id (h.handedOut + 1) none) true).trace h').after [t, u] := by
  obtain ⟨t, u, h', hacquire, hcall, hcall'⟩ :=
    Service.trace_acquireVerified_of_timely hset hc (timely_acquireVerified hx ht)
  refine ⟨t, u, h'.put (.idle id (h.handedOut + 1) none), hcall, hcall', ?_, Host.context_put rfl,
    Service.trace_beginUnguarded_of_acquired hx hacquire⟩
  simp [Service.connectedAt, hx, Context.vacant, Handle.isDetached, hacquire, Host.put]

theorem connectedAt_of_idle (hx : h.context id = .idle id c none) : s.connectedAt id h = h.now := by
  simp [Service.connectedAt, hx, Context.idle, Handle.isDetached]

theorem begin_served (hset : s.settings.Positive) (hcount : Counts s id h .begin)
    (ht : ((s.begin id).trace h).Timely s) (hs : (h.context id).Sound)
    (hd : (h.context id).deadline = none) : Served id .begin h ((s.begin id).trace h) := by
  have hother : Turn.begin ≠ .commit := by intro e; cases e
  have hun := timely_beginUnguarded ht
  rcases Host.context_cases_of_none hs hd with hx | ⟨c, hx⟩ | ⟨c, n, hx⟩
  · obtain ⟨hconnect, hwrite⟩ := hcount (by rw [hx]; rfl)
    obtain ⟨t, u, h', hcall, hcall', hnow, -, hrest⟩ :=
      begin_acquires hset hx (hconnect (by rw [hx]; rfl)) ht
    rw [hrest] at hun
    rw [← hnow] at hwrite
    obtain ⟨v, state, hcall'', hstart⟩ :=
      Service.trace_startTransaction_of_timely hset true hwrite hun.of_after
    have hrun : (s.begin id).trace h = ⟨.value (), (h'.afterTrip state v).put
        (.opened id (h.handedOut + 1) 1 none), [t, u, v]⟩ := by
      simp [Service.begin, hrest, hstart, Outcome.settled]
    rw [hrun]
    refine ⟨?_, rfl, ?_, fun e => absurd e hother⟩
    · simp [hx, Context.vacant, calls, Handle.conn?, hcall, hcall', hcall'']
    · rw [hx]
      exact Host.context_put rfl
  · have hwrite := (hcount (by rw [hx]; rfl)).2
    rw [connectedAt_of_idle hx] at hwrite
    have hrest := Service.trace_beginUnguarded_of_idle (s := s) hx
    rw [hrest] at hun
    obtain ⟨v, state, hcall, hstart⟩ := Service.trace_startTransaction_of_timely hset false hwrite hun
    have hrun : (s.begin id).trace h =
        ⟨.value (), (h.afterTrip state v).put (.opened id c 1 none), [v]⟩ := by
      simp [Service.begin, hrest, hstart, Outcome.settled]
    rw [hrun]
    refine ⟨?_, rfl, ?_, fun e => absurd e hother⟩
    · simp [hx, Context.idle, calls, Handle.conn?, hcall]
    · rw [hx]
      exact Host.context_put rfl
  · rw [Service.trace_begin_of_open hx]
    refine ⟨?_, rfl, ?_, fun e => absurd e hother⟩
    · simp [hx, Context.opened, calls]
    · rw [hx]
      exact Host.context_put rfl

theorem begin_stopped (hset : s.settings.Positive) (hcount : ¬ Counts s id h .begin)
    (ht : ((s.begin id).trace h).Timely s) (hs : (h.context id).Sound)
    (hd : (h.context id).deadline = none) : Stopped s id h ((s.begin id).trace h) .begin := by
  obtain ⟨hl, hstop⟩ := Classical.not_imp.mp hcount
  rcases Host.context_cases_of_none hs hd with hx | ⟨c, hx⟩ | ⟨c, n, hx⟩
  · by_cases hconnect : Service.Holds h.now s.settings.connectSecs
    · -- a connection is acquired, and there is no time to begin on it
      obtain ⟨t, u, h', hcall, hcall', hnow, hidle, hrest⟩ := begin_acquires hset hx hconnect ht
      have hwrite : ¬ Service.Holds h'.now s.settings.writeSecs := by
        rw [hnow]
        exact fun hwrite => hstop ⟨fun _ => hconnect, hwrite⟩
      obtain ⟨h'', d, hcall'', hvacant, hdiscard⟩ := Service.trace_discardUnknown (s := s) hidle
      rw [Service.trace_startTransaction_of_not_holds true hwrite] at hrest
      rw [Service.trace_begin_of_panic hrest hdiscard]
      refine ⟨rfl, hvacant, ?_⟩
      simp [hx, Context.vacant, Handle.conn?, hconnect, hcall, hcall', hcall'']
    · have hun := Service.trace_beginUnguarded_of_lost (Service.trace_acquireVerified_of_not_holds
        hset.attempts hconnect) hx
      rw [Service.trace_begin_of_panic hun (Service.trace_discardUnknown_of_vacant hx)]
      refine ⟨rfl, hx, ?_⟩
      simp [hx, Context.vacant, Handle.conn?, hconnect]
  · have hwrite : ¬ Service.Holds h.now s.settings.writeSecs := by
      intro hwrite
      rw [← connectedAt_of_idle (s := s) hx] at hwrite
      refine hstop ⟨fun hdetached => ?_, hwrite⟩
      rw [hx] at hdetached
      cases hdetached
    obtain ⟨h', d, hcall, hvacant, hdiscard⟩ := Service.trace_discardUnknown (s := s) hx
    have hun := Service.trace_beginUnguarded_of_idle (s := s) hx
    rw [Service.trace_startTransaction_of_not_holds false hwrite] at hun
    rw [Service.trace_begin_of_panic hun hdiscard]
    refine ⟨rfl, hvacant, ?_⟩
    simp [hx, Context.idle, Handle.conn?, hcall]
  · rw [hx] at hl
    cases hl

/-! The end of a transaction. -/

theorem commit_served (hset : s.settings.Positive) (hcount : Counts s id h .commit)
    (ht : ((s.commit id).trace h).Timely s) (hs : (h.context id).Sound)
    (hd : (h.context id).deadline = none) : Served id .commit h ((s.commit id).trace h) := by
  by_cases hl : (h.context id).level = 0
  · rw [Service.trace_commit_of_closed hl]
    refine ⟨?_, ?_, ?_, fun _ _ => rfl⟩
    · simp [hl, calls]
    · simp [hl, Ends]
    · simp [hl, leaves]
  rcases Host.context_cases_of_none hs hd with hx | ⟨c, hx⟩ | ⟨c, n, hx⟩
  · exact absurd (by rw [hx]; rfl) hl
  · exact absurd (by rw [hx]; rfl) hl
  cases n with
  | succ n =>
      rw [Service.trace_commit_of_nested hx]
      refine ⟨?_, ?_, ?_, fun _ h0 => absurd h0 hl⟩
      · simp [hx, Context.opened, calls]
      · simp [hx, Context.opened, Ends]
      · rw [hx]
        exact Host.context_put rfl
  | zero =>
      obtain ⟨t, u, h', hcall, hcall', hvacant, hrun⟩ :=
        Service.trace_commit_of_timely hset (hcount (by rw [hx]; rfl)) hx ht
      rw [hrun]
      refine ⟨?_, ?_, ?_, fun _ h0 => absurd h0 hl⟩
      · simp [hx, Context.opened, calls, Handle.conn?, hcall, hcall']
      · simp [hx, Context.opened, Ends]
      · rw [hx]
        exact hvacant

theorem commit_stopped (hcount : ¬ Counts s id h .commit) (hs : (h.context id).Sound)
    (hd : (h.context id).deadline = none) : Stopped s id h ((s.commit id).trace h) .commit := by
  obtain ⟨hl, hwrite⟩ := Classical.not_imp.mp hcount
  rcases Host.context_cases_of_none hs hd with hx | ⟨c, hx⟩ | ⟨c, n, hx⟩
  · rw [hx] at hl
    cases hl
  · rw [hx] at hl
    cases hl
  · obtain rfl : n = 0 := by simpa [hx, Context.opened] using hl
    have hbudget := Service.trace_budget_of_not_holds none hwrite
    change (s.commit id).trace h = _
    simp [Service.commit, hx, Context.opened, Handle.inTransaction, hbudget]

theorem rollback_served (hset : s.settings.Positive) (hcount : Counts s id h .rollback)
    (ht : ((s.rollback id).trace h).Timely s) (hs : (h.context id).Sound)
    (hd : (h.context id).deadline = none) : Served id .rollback h ((s.rollback id).trace h) := by
  have hother : Turn.rollback ≠ .commit := by intro e; cases e
  by_cases hl : (h.context id).level = 0
  · rw [Service.trace_rollback_of_closed hl]
    refine ⟨?_, rfl, ?_, fun e => absurd e hother⟩
    · simp [hl, calls]
    · simp [hl, leaves]
  rcases Host.context_cases_of_none hs hd with hx | ⟨c, hx⟩ | ⟨c, n, hx⟩
  · exact absurd (by rw [hx]; rfl) hl
  · exact absurd (by rw [hx]; rfl) hl
  obtain ⟨t, u, h', hcall, hcall', hvacant, hrun⟩ :=
    Service.trace_rollback_of_timely hset (hcount (Nat.pos_of_ne_zero hl)) hx ht
  rw [hrun]
  refine ⟨?_, rfl, ?_, fun e => absurd e hother⟩
  · simp [hx, Context.opened, calls, Handle.conn?, hcall, hcall']
  · rw [hx]
    exact hvacant

theorem rollback_stopped (hcount : ¬ Counts s id h .rollback) (hs : (h.context id).Sound) :
    Stopped s id h ((s.rollback id).trace h) .rollback := by
  obtain ⟨hl, hwrite⟩ := Classical.not_imp.mp hcount
  obtain ⟨c, n, deadline, hx⟩ := Host.exists_opened hs (Nat.ne_of_gt hl)
  have hbudget := Service.trace_budget_of_not_holds deadline hwrite
  change (s.rollback id).trace h = _
  simp [Service.rollback, hx, Context.opened, Handle.inTransaction, hbudget]

/-! A statement. -/

theorem statement_served (hset : s.settings.Positive) {e : Errand}
    (hcount : Counts s id h (.statement e)) (ht : ((s.perform id e).trace h).Timely s)
    (hd : (h.context id).deadline = none) :
    Served id (.statement e) h ((s.perform id e).trace h) := by
  have hother : Turn.statement e ≠ .commit := by intro e; cases e
  rw [Service.trace_perform_at hd] at ht ⊢
  cases he : e.callAt (.ofHandle (h.context id).handle) with
  | error f =>
      have hrun : (s.runAt none (.ofHandle (h.context id).handle) e).trace h = ⟨.failure f, h, []⟩ := by
        simp [Service.runAt, he]
      rw [hrun]
      exact ⟨by simp [calls, he], trivial, rfl, fun e => absurd e hother⟩
  | ok call =>
      obtain ⟨o, t, state, hcall, hrun⟩ :=
        Service.trace_runAt_of_timely hset (hcount (by rw [he]; rfl)) he ht
      rw [hrun]
      refine ⟨?_, trivial, rfl, fun e => absurd e hother⟩
      simp [calls, he, hcall]

theorem statement_stopped {e : Errand} (hcount : ¬ Counts s id h (.statement e)) :
    Stopped s id h ((s.perform id e).trace h) (.statement e) := by
  obtain ⟨hresolves, hsecs⟩ := Classical.not_imp.mp hcount
  have hbudget := Service.trace_budget_of_not_holds (h.context id).deadline hsecs
  change (s.perform id e).trace h = _
  rw [Service.trace_perform_at rfl]
  cases he : e.callAt (.ofHandle (h.context id).handle) with
  | error f => simp [he, Except.isOk, Except.toBool] at hresolves
  | ok call => simp [Service.runAt, he, hbudget]

/-- **One turn.**  A turn that counts and whose calls are answered in time makes the calls that the depth
and the handle of its context ask for, and leaves the context as they say. -/
theorem served (hset : s.settings.Positive) (hs : (h.context id).Sound)
    (hd : (h.context id).deadline = none) : ∀ {x : Turn}, x.Counts s id h →
    ((x.act s id).trace h).Timely s → x.Served id h ((x.act s id).trace h)
  | .begin, hcount, ht => begin_served hset hcount ht hs hd
  | .commit, hcount, ht => commit_served hset hcount ht hs hd
  | .rollback, hcount, ht => rollback_served hset hcount ht hs hd
  | .statement _, hcount, ht => statement_served hset hcount ht hd

/-- **One turn that does not count** is stopped by the clock. -/
theorem stopped (hset : s.settings.Positive) (hs : (h.context id).Sound)
    (hd : (h.context id).deadline = none) : ∀ {x : Turn}, ¬ x.Counts s id h →
    ((x.act s id).trace h).Timely s → x.Stopped s id h ((x.act s id).trace h)
  | .begin, hcount, ht => begin_stopped hset hcount ht hs hd
  | .commit, hcount, _ => commit_stopped hcount hs hd
  | .rollback, hcount, _ => rollback_stopped hcount hs
  | .statement _, hcount, _ => statement_stopped hcount

/-- A turn that does not count leaves its context as it was, or it is a begin that leaves nothing in a
context without a transaction. -/
theorem Stopped.context_eq {t : Trace σ Unit} : ∀ {x : Turn}, x.Stopped s id h t → ¬ x.Counts s id h →
    t.host.context id = h.context id ∨
      (h.context id).level = 0 ∧ t.host.context id = .vacant id none
  | .begin, hstop, hcount => .inr ⟨(Classical.not_imp.mp hcount).1, hstop.2.1⟩
  | .commit, hstop, _ => .inl (congrArg (fun t : Trace σ Unit => t.host.context id) hstop)
  | .rollback, hstop, _ => .inl (congrArg (fun t : Trace σ Unit => t.host.context id) hstop)
  | .statement _, hstop, _ => .inl (congrArg (fun t : Trace σ Unit => t.host.context id) hstop)

/-- Inside a transaction a turn that the clock stops makes no call. -/
theorem Stopped.trips_eq_nil {t : Trace σ Unit} (hpos : 0 < (h.context id).level) :
    ∀ {x : Turn}, x.Stopped s id h t → ¬ x.Counts s id h → t.trips = []
  | .begin, _, hcount => absurd (Classical.not_imp.mp hcount).1 (Nat.ne_of_gt hpos)
  | .commit, hstop, _ => congrArg Trace.trips hstop
  | .rollback, hstop, _ => congrArg Trace.trips hstop
  | .statement _, hstop, _ => congrArg Trace.trips hstop

end Turn

/-! ### What a turn leaves -/

namespace Turn

variable {n : Nat} {x : Context} {t : Turn}

theorem level_leaves : (t.leaves n x).level = t.next x.level := by
  obtain ⟨id, hd, level, deadline⟩ := x
  cases t with
  | begin => rfl
  | commit => rcases level with _ | _ | level <;> rfl
  | rollback => cases level <;> rfl
  | statement e => rfl

theorem deadline_leaves : (t.leaves n x).deadline = x.deadline := by
  obtain ⟨id, hd, level, deadline⟩ := x
  cases t with
  | begin => rfl
  | commit => rcases level with _ | _ | level <;> rfl
  | rollback => cases level <;> rfl
  | statement e => rfl

theorem sound_leaves (hs : x.Sound) : (t.leaves n x).Sound := by
  rcases hs.cases with hx | ⟨c, hx⟩ | ⟨c, k, hx⟩ <;> rw [hx]
  · cases t with
    | begin => exact Context.sound_opened _ _ 0 _
    | _ => exact Context.sound_vacant _ _
  · cases t with
    | begin => exact Context.sound_opened _ _ 0 _
    | _ => exact Context.sound_idle _ _ _
  · cases t with
    | begin => exact Context.sound_opened _ _ (k + 1) _
    | commit =>
        cases k with
        | zero => exact Context.sound_vacant _ _
        | succ k => exact Context.sound_opened _ _ k _
    | rollback => exact Context.sound_vacant _ _
    | statement e => exact Context.sound_opened _ _ k _

/-- A turn that stays at depth zero leaves the context as it is. -/
theorem leaves_of_closed (hl : x.level = 0) (hn : t.next 0 = 0) : t.leaves n x = x := by
  cases t with
  | begin => cases hn
  | commit => simp [leaves, hl]
  | rollback => simp [leaves, hl]
  | statement e => rfl

/-- A turn that comes back to depth zero leaves nothing in the context. -/
theorem leaves_of_ended (hl : 0 < x.level) (hn : t.next x.level = 0) :
    t.leaves n x = .vacant x.id x.deadline := by
  cases t with
  | begin => cases hn
  | commit =>
      have h1 : x.level = 1 := by
        simp only [next] at hn
        omega
      simp [leaves, h1]
  | rollback => simp [leaves, hl]
  | statement e => exact absurd hn (Nat.pos_iff_ne_zero.mp hl)

/-- A turn that stays in the transaction leaves its connection in the context. -/
theorem leaves_of_open {id : String} {c : ConnId} {k : Nat} (hn : 0 < t.next (k + 1)) :
    t.leaves n (.opened id c (k + 1) none) = .opened id c (t.next (k + 1)) none := by
  cases t with
  | begin => rfl
  | commit =>
      obtain ⟨k, rfl⟩ : ∃ m, k = m + 1 := ⟨k - 1, by simp only [next] at hn; omega⟩
      rfl
  | rollback => cases hn
  | statement e => rfl

theorem conn?_of_open {depth : Nat} (hd : 0 < depth) {c : ConnId} {call : Call}
    (hcall : call ∈ t.calls depth (.transaction c) n) : call.conn? = some c := by
  cases t with
  | begin => simp [calls, hd] at hcall
  | commit =>
      have hends : call = .commit c ∨ call = .release c := by
        by_cases h1 : depth = 1
        · simpa [calls, h1, Handle.conn?] using hcall
        · simp [calls, h1] at hcall
      rcases hends with rfl | rfl <;> rfl
  | rollback =>
      have hends : call = .rollback c ∨ call = .release c := by
        simpa [calls, hd, Handle.conn?] using hcall
      rcases hends with rfl | rfl <;> rfl
  | statement e =>
      cases he : e.callAt (.ofHandle (.transaction c)) with
      | error f => simp [calls, he] at hcall
      | ok made =>
          obtain rfl : call = made := by simpa [calls, he] using hcall
          obtain ⟨_, _, ⟨_, rfl⟩ | ⟨_, rfl⟩⟩ := e.eq_of_callAt he
          · rfl
          · rfl

theorem eq_begin (hn : 0 < t.next 0) : t = .begin := by
  cases t with
  | begin => rfl
  | _ => cases hn

end Turn

end SqlSession
