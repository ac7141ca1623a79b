import SqlSession.Proofs.Act.Contexts

/-! # Traces of single calls

A bounded call makes one round trip or, when its budget is used up, none; the budget itself is set
unless the clock cannot hold its end.  The trace of each is given by cases, so that an operation is
worked out by splitting on what became of its calls.
-/

namespace SqlSession

/-- What the clock says when an instant is too late for it. -/
def clockFault : Payload := .text "overflow when adding duration to instant"

/-- The outcome of a call that asks for no more than success. -/
def Ending.done : Ending → Outcome Unit
  | .reply _ => .value ()
  | .failure f => .failure f
  | .panic p => .panic p
  | .never => .hang

/-- The outcome of a bounded round trip: a call that was given up counts as timed out. -/
def RoundTrip.outcome (t : RoundTrip) (b : Budget) (operation : String) : Outcome Reply :=
  match t.ending with
  | .never => .failure (.timeout operation b.secs)
  | e => e.outcome

theorem RoundTrip.succeeded_of_reply {t : RoundTrip} {r : Reply} (he : t.ending = .reply r) :
    t.succeeded = true := by
  simp [succeeded, he]

theorem RoundTrip.done_eq_value_iff {t : RoundTrip} :
    t.ending.done = .value () ↔ t.succeeded = true := by
  cases he : t.ending <;> simp [succeeded, he, Ending.done]

/-- A bounded round trip gives a value if it was answered, and else a failure or a panic. -/
theorem RoundTrip.outcome_cases (t : RoundTrip) (b : Budget) (operation : String) :
    (t.succeeded = true ∧ ∃ r, t.outcome b operation = .value r) ∨
    (t.succeeded = false ∧ ∃ f, t.outcome b operation = .failure f) ∨
    (t.succeeded = false ∧ ∃ p, t.ending = .panic p ∧ t.outcome b operation = .panic p) := by
  cases he : t.ending with
  | reply r => exact .inl ⟨succeeded_of_reply he, r, by simp [outcome, he, Ending.outcome]⟩
  | failure f =>
      exact .inr (.inl ⟨by simp [succeeded, he], f, by simp [outcome, he, Ending.outcome]⟩)
  | panic p =>
      exact .inr (.inr ⟨by simp [succeeded, he], p, rfl, by simp [outcome, he, Ending.outcome]⟩)
  | never =>
      exact .inr (.inl ⟨by simp [succeeded, he], .timeout operation b.secs, by simp [outcome, he]⟩)

/-- The host once a round trip is over. -/
def Host.afterTrip (h : Host σ) (state : σ) (t : RoundTrip) : Host σ :=
  { h with server := state, now := t.left }

@[simp] theorem Host.context_afterTrip (h : Host σ) (state : σ) (t : RoundTrip) (id : String) :
    (h.afterTrip state t).context id = h.context id := rfl

@[simp] theorem Host.handedOut_afterTrip (h : Host σ) (state : σ) (t : RoundTrip) :
    (h.afterTrip state t).handedOut = h.handedOut := rfl

namespace Server

variable (server : Server σ)

/-- What a round trip of a call may be: the server's own reaction, or one that was given up. -/
structure Answers (h : Host σ) (c : Call) (t : RoundTrip) : Prop where
  call_eq : t.call = c
  started_eq : t.started = h.now
  ending_eq : t.ending = .never ∨ t.ending = (server.react h.server c).1.ending

theorem callWithin_cases (b : Budget) (operation : String) (c : Call) (h : Host σ) :
    (b.deadline ≤ h.now ∧ server.callWithin b operation c h =
      ⟨.failure (.timeout operation b.secs), h, []⟩) ∨
    (h.now < b.deadline ∧ ∃ t state, server.Answers h c t ∧ t.left ≤ b.deadline ∧
      server.callWithin b operation c h = ⟨t.outcome b operation, h.afterTrip state t, [.call t]⟩) := by
  rcases Int.lt_or_le h.now b.deadline with hb | hb
  · right
    have hb' : ¬ b.deadline ≤ h.now := Int.not_le.mpr hb
    refine ⟨hb, ?_⟩
    by_cases hr : (server.react h.server c).1.ending = .never ∨
        b.deadline < h.now + (server.react h.server c).1.delay
    · refine ⟨⟨c, h.now, b.deadline, .never⟩, (server.react h.server c).2,
        ⟨rfl, rfl, .inl rfl⟩, Int.le_refl _, ?_⟩
      simp only [callWithin, if_neg hb', if_pos hr, RoundTrip.outcome, Host.afterTrip]
    · refine ⟨⟨c, h.now, h.now + (server.react h.server c).1.delay,
        (server.react h.server c).1.ending⟩, (server.react h.server c).2,
        ⟨rfl, rfl, .inr rfl⟩, ?_, ?_⟩
      · simp only [not_or] at hr
        exact Int.not_lt.mp hr.2
      · have ho : RoundTrip.outcome ⟨c, h.now, h.now + (server.react h.server c).1.delay,
            (server.react h.server c).1.ending⟩ b operation =
            (server.react h.server c).1.ending.outcome := by
          unfold RoundTrip.outcome
          split
          · rename_i he
            exact absurd (.inl he) hr
          · rfl
        simp only [callWithin, if_neg hb', if_neg hr, ho, Host.afterTrip]
  · left
    exact ⟨hb, by simp only [callWithin, if_pos hb]⟩

/-- The trace of a bounded call. -/
theorem trace_callWithin (b : Budget) (operation : String) (c : Call) (h : Host σ) :
    (b.deadline ≤ h.now ∧
      (server.callWithin b operation c).trace h = ⟨.failure (.timeout operation b.secs), h, []⟩) ∨
    ∃ t state, server.Answers h c t ∧ (server.callWithin b operation c).trace h =
      ⟨t.outcome b operation, h.afterTrip state t, [t]⟩ := by
  rcases server.callWithin_cases b operation c h with ⟨hb, e⟩ | ⟨_, t, state, ha, _, e⟩
  · exact .inl ⟨hb, by simp [Act.trace, Run.trips, e]⟩
  · exact .inr ⟨t, state, ha, by simp [Act.trace, Run.trips, e, Entry.trip?]⟩

/-- The trace of a call that is waited for. -/
theorem trace_call (c : Call) (h : Host σ) : ∃ t state, server.Answers h c t ∧
    (server.call c).trace h = ⟨t.ending.outcome, h.afterTrip state t, [t]⟩ :=
  ⟨⟨c, h.now, h.now + (server.react h.server c).1.delay, (server.react h.server c).1.ending⟩,
    (server.react h.server c).2, ⟨rfl, rfl, .inr rfl⟩, rfl⟩

@[simp] theorem trace_handOut : (handOut : Act σ ConnId).trace = fun h =>
    ⟨.value (h.handedOut + 1), { h with handedOut := h.handedOut + 1 }, []⟩ := rfl

/-- The trace of a discard. -/
theorem trace_discard (c : ConnId) (h : Host σ) : ∃ t state, t.call = .discard c ∧
    (server.discard c).trace h = ⟨.value (), h.afterTrip state t, [t]⟩ :=
  ⟨⟨.discard c, h.now, h.now, .reply .done⟩, (server.react h.server (.discard c)).2, rfl, rfl⟩

end Server

/-- A budget is set, unless the clock cannot hold its end. -/
theorem Service.budget_cases (deadline : Option Instant) (secs : Nat) (h : Host σ) :
    (clockLimit ≤ h.now + secs * 1000 ∧
      (budget deadline secs : Act σ Budget) h = ⟨.panic clockFault, h, []⟩) ∨
    (h.now + secs * 1000 < clockLimit ∧ ∃ b : Budget,
      b.deadline = (deadline.elim (h.now + secs * 1000) fun d => min d (h.now + secs * 1000)) ∧
      b.secs = min secs secsLimit ∧
      (budget deadline secs : Act σ Budget) h = ⟨.value b, h, []⟩) := by
  by_cases hc : clockLimit ≤ h.now + secs * 1000
  · exact .inl ⟨hc, by simp only [budget, if_pos hc, clockFault]⟩
  · refine .inr ⟨Int.not_le.mp hc, ⟨deadline.elim (h.now + secs * 1000) fun d =>
      min d (h.now + secs * 1000), min secs secsLimit⟩, rfl, rfl, ?_⟩
    cases deadline <;> simp only [budget, if_neg hc, Option.elim]

theorem Service.trace_budget (deadline : Option Instant) (secs : Nat) (h : Host σ) :
    (clockLimit ≤ h.now + secs * 1000 ∧
      (budget deadline secs : Act σ Budget).trace h = ⟨.panic clockFault, h, []⟩) ∨
    ∃ b, (budget deadline secs : Act σ Budget).trace h = ⟨.value b, h, []⟩ := by
  rcases budget_cases deadline secs h with ⟨hc, e⟩ | ⟨_, b, _, _, e⟩
  · exact .inl ⟨hc, by simp [Act.trace, Run.trips, e]⟩
  · exact .inr ⟨b, by simp [Act.trace, Run.trips, e]⟩

/-- The clock can hold the end of a timeout that starts at an instant. -/
def Service.Holds (now : Instant) (secs : Nat) : Prop := now + secs * 1000 < clockLimit

instance {now : Instant} {secs : Nat} : Decidable (Service.Holds now secs) :=
  inferInstanceAs (Decidable (_ < _))

theorem Service.trace_budget_of_not_holds (deadline : Option Instant) {secs : Nat} {h : Host σ}
    (hc : ¬ Holds h.now secs) :
    (budget deadline secs : Act σ Budget).trace h = ⟨.panic clockFault, h, []⟩ := by
  rcases budget_cases deadline secs h with ⟨_, e⟩ | ⟨hc', _⟩
  · simp [Act.trace, Run.trips, e]
  · exact absurd hc' hc

/-- How a bounded call ends that is not made.  Its budget is used up before it, because the deadline has
been reached or there is no time for such calls at all; or the clock cannot hold the end of its timeout. -/
inductive Service.Unsent (deadline : Option Instant) (secs : Nat) (operation : String) (now : Instant) :
    Outcome Unit → Prop
  | late (hc : Holds now secs) (hd : secs = 0 ∨ ∃ d, deadline = some d ∧ d ≤ now) :
      Unsent deadline secs operation now (.failure (.timeout operation (min secs secsLimit)))
  | clock (hc : ¬ Holds now secs) : Unsent deadline secs operation now (.panic clockFault)

/-- A budget is set, and used up at once only if there is no time left for the call; or the clock cannot
hold its end. -/
theorem Service.trace_budget_unsent (deadline : Option Instant) (secs : Nat) (operation : String)
    (h : Host σ) :
    (Unsent deadline secs operation h.now (.panic clockFault) ∧
      (budget deadline secs : Act σ Budget).trace h = ⟨.panic clockFault, h, []⟩) ∨
    ∃ b, (b.deadline ≤ h.now →
        Unsent deadline secs operation h.now (.failure (.timeout operation b.secs))) ∧
      (budget deadline secs : Act σ Budget).trace h = ⟨.value b, h, []⟩ := by
  rcases budget_cases deadline secs h with ⟨hc, e⟩ | ⟨hc, b, hb, hsecs, e⟩
  · exact .inl ⟨.clock (Int.not_lt.mpr hc), by simp [Act.trace, Run.trips, e]⟩
  refine .inr ⟨b, fun hover => ?_, by simp [Act.trace, Run.trips, e]⟩
  rw [hsecs]
  refine .late hc ?_
  rw [hb] at hover
  have hzero : ∀ now : Int, now + secs * 1000 ≤ now → secs = 0 := fun now hle => by omega
  cases deadline with
  | none => exact .inl (hzero h.now hover)
  | some d =>
      have hmin : min d (h.now + secs * 1000) ≤ h.now := hover
      rcases Int.le_total d (h.now + secs * 1000) with hle | hle
      · rw [Int.min_eq_left hle] at hmin
        exact .inr ⟨d, rfl, hmin⟩
      · rw [Int.min_eq_right hle] at hmin
        exact .inl (hzero h.now hmin)

/-- The instant at which round trips are over that have started at an instant. -/
def RoundTrip.lastLeft (now : Instant) (l : List RoundTrip) : Instant := l.foldl (fun _ t => t.left) now

theorem RoundTrip.lastLeft_append (now : Instant) (l m : List RoundTrip) :
    lastLeft now (l ++ m) = lastLeft (lastLeft now l) m := List.foldl_append

/-- The seconds that a call may take, if they are limited. -/
def Service.timeout? (s : Service σ) : Call → Option Nat
  | .acquire => some s.settings.connectSecs
  | .pingServer => some s.settings.connectSecs
  | .ping _ => some s.settings.connectSecs
  | .begin _ => some s.settings.writeSecs
  | .commit _ => some s.settings.writeSecs
  | .rollback _ => some s.settings.writeSecs
  | .execute .. => some s.settings.writeSecs
  | .fetch .. => some s.settings.readSecs
  | .release _ => none
  | .close _ => none
  | .discard _ => none

/-! ### Calls of a kind -/

/-- Whether all calls of an act are of a kind. -/
def Act.Makes (P : Call → Prop) (x : Act σ α) : Prop := ∀ h, ∀ t ∈ (x.trace h).trips, P t.call

namespace Act.Makes

variable {P : Call → Prop}

theorem of_trips_nil {x : Act σ α} (hx : ∀ h, (x.trace h).trips = []) : x.Makes P := by
  intro h t ht
  rw [hx h] at ht
  cases ht

theorem imp {Q : Call → Prop} {x : Act σ α} (hx : x.Makes P) (hPQ : ∀ call, P call → Q call) :
    x.Makes Q := fun h t ht => hPQ t.call (hx h t ht)

theorem pure (a : α) : (Pure.pure a : Act σ α).Makes P := of_trips_nil fun _ => rfl

theorem fail (f : Failure) : (Act.fail f : Act σ α).Makes P := of_trips_nil fun _ => rfl

theorem panic (p : Payload) : (Act.panic p : Act σ α).Makes P := of_trips_nil fun _ => rfl

theorem log (e : Event) : (Act.log e : Act σ Unit).Makes P := of_trips_nil fun _ => rfl

theorem context (id : String) : (Act.context id : Act σ Context).Makes P := of_trips_nil fun _ => rfl

theorem store (c : Context) : (Act.store c : Act σ Unit).Makes P := of_trips_nil fun _ => rfl

theorem handOut : (Server.handOut : Act σ ConnId).Makes P := of_trips_nil fun _ => rfl

theorem drop (server : Server σ) (c : ConnId) : (server.drop c).Makes P := of_trips_nil fun _ => rfl

theorem budget (deadline : Option Instant) (secs : Nat) :
    (Service.budget deadline secs : Act σ Budget).Makes P := by
  refine of_trips_nil fun h => ?_
  rcases Service.trace_budget deadline secs h with ⟨_, e⟩ | ⟨b, e⟩ <;> rw [e]

theorem bind {x : Act σ α} {k : α → Act σ β} (hx : x.Makes P) (hk : ∀ a, (k a).Makes P) :
    (x >>= k).Makes P := by
  intro h t ht
  have hfirst := hx h
  simp only [trace_bind] at ht
  rcases hr : x.trace h with ⟨o, h', l⟩
  rw [hr] at ht hfirst
  cases o with
  | value a =>
      rw [Trace.andThen_value, Trace.trips_after, List.mem_append] at ht
      exact ht.elim (hfirst t) (hk a h' t)
  | _ => exact hfirst t ht

theorem ofExcept_bind {e : Except Failure α} {k : α → Act σ β}
    (hk : ∀ a, e = .ok a → (k a).Makes P) : (Act.ofExcept e >>= k).Makes P := by
  cases e with
  | ok a => exact hk a rfl
  | error f => exact of_trips_nil fun _ => rfl

theorem settle {x : Act σ α} (hx : x.Makes P) : (Act.settle x).Makes P := by
  intro h
  rw [trace_settle]
  exact hx h

theorem attempt {x : Act σ α} (hx : x.Makes P) : (Act.attempt x).Makes P := by
  intro h
  rw [trace_attempt]
  exact hx h

theorem observe {x : Act σ α} (hx : x.Makes P) (s : Service σ) (operation : String) :
    (s.observe operation x).Makes P := by
  intro h
  rw [Service.trace_observe]
  exact hx h

theorem callWithin {call : Call} (hc : P call) (server : Server σ) (b : Budget) (operation : String) :
    (server.callWithin b operation call).Makes P := by
  intro h t ht
  rcases server.trace_callWithin b operation call h with ⟨_, e⟩ | ⟨u, state, ha, e⟩
  · rw [e] at ht
    cases ht
  · rw [e, List.mem_singleton] at ht
    rw [ht, ha.call_eq]
    exact hc

theorem call {c : Call} (hc : P c) (server : Server σ) : (server.call c).Makes P := by
  intro h t ht
  obtain rfl := List.mem_singleton.mp ht
  exact hc

theorem discard {c : ConnId} (hc : P (.discard c)) (server : Server σ) :
    (server.discard c).Makes P := by
  intro h t ht
  obtain rfl := List.mem_singleton.mp ht
  exact hc

end Act.Makes

/-! ### A service to try things on -/

/-- A host on which nothing has been done. -/
def Host.fresh (state : σ) (now : Instant) : Host σ := ⟨state, now, 0, []⟩

/-- A service with a server that reacts at once, and to a call always in the same way. -/
def Service.plain (ending : Call → Ending) : Service Unit :=
  ⟨⟨fun _ c => (⟨0, ending c⟩, ()), fun _ _ => ()⟩, ⟨1, 1, 1, 1, "db", false⟩⟩

/-- A service without trouble, whose write timeout ends where the clock does not reach. -/
def Service.unholdable : Service Unit :=
  { plain fun _ => .reply .done with settings := ⟨1, 1, 1, 18446744073709551615, "db", false⟩ }

end SqlSession
