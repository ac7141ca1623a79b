import SqlSession.Config.Basic
import SqlSession.Proofs.Timing.Deadline

/-! # Attempts at a connection

An attempt at a connection acquires one and pings it, on one budget; it comes to something exactly if both
calls succeed within that budget (`Service.Verifies`).  An attempt that fails makes no call when its budget
is used up from the start, and discards the connection that it has acquired (`Attempt.Fails`).  A
connection comes from the first attempt that does not fail, of as many as the configuration allows
(`acquires_first_verified`). -/

namespace SqlSession

/-! ### Calls within a budget -/

namespace Server

variable (server : Server σ)

/-- Whether a call that is asked for now succeeds by the end of a budget. -/
def SucceedsWithin (b : Budget) (call : Call) (h : Host σ) : Prop :=
  h.now < b.deadline ∧ (∃ r, (server.react h.server call).1.ending = .reply r) ∧
    h.now + (server.react h.server call).1.delay ≤ b.deadline

/-- The host when a call has run its course. -/
def afterCall (call : Call) (h : Host σ) : Host σ :=
  { h with
    server := (server.react h.server call).2
    now := h.now + (server.react h.server call).1.delay }

/-- What may become of a call within a budget. -/
inductive CallEnds (b : Budget) (operation : String) (call : Call) (h : Host σ) :
    Trace σ Reply → Prop
  | succeeded {r : Reply} {t : RoundTrip} (hs : server.SucceedsWithin b call h) (ht : t.call = call)
      (hts : t.succeeded = true) (hleft : t.left = (server.afterCall call h).now) :
      CallEnds b operation call h ⟨.value r, server.afterCall call h, [t]⟩
  | refused (hs : ¬ server.SucceedsWithin b call h) (hb : b.deadline ≤ h.now) :
      CallEnds b operation call h ⟨.failure (.timeout operation b.secs), h, []⟩
  | failed {f : Failure} {t : RoundTrip} {state : σ} (hs : ¬ server.SucceedsWithin b call h)
      (hb : h.now < b.deadline) (ht : t.call = call) (hts : t.succeeded = false) :
      CallEnds b operation call h ⟨.failure f, h.afterTrip state t, [t]⟩
  | panicked {p : Payload} {t : RoundTrip} {state : σ} (hs : ¬ server.SucceedsWithin b call h)
      (ht : t.call = call) (hp : t.ending = .panic p) :
      CallEnds b operation call h ⟨.panic p, h.afterTrip state t, [t]⟩

theorem not_succeedsWithin {b : Budget} {call : Call} {h : Host σ}
    (hr : ∀ r, (server.react h.server call).1.ending ≠ .reply r) : ¬ server.SucceedsWithin b call h :=
  fun ⟨_, ⟨r, he⟩, _⟩ => hr r he

theorem callWithin_ends (b : Budget) (operation : String) (call : Call) (h : Host σ) :
    server.CallEnds b operation call h ((server.callWithin b operation call).trace h) := by
  rcases Int.lt_or_le h.now b.deadline with hb | hb
  · have hb' : ¬ b.deadline ≤ h.now := Int.not_le.mpr hb
    by_cases hr : (server.react h.server call).1.ending = .never ∨
        b.deadline < h.now + (server.react h.server call).1.delay
    · have e : (server.callWithin b operation call).trace h = ⟨.failure (.timeout operation b.secs),
          h.afterTrip (server.react h.server call).2 ⟨call, h.now, b.deadline, .never⟩,
          [⟨call, h.now, b.deadline, .never⟩]⟩ := by
        simp only [Act.trace, Run.trips, callWithin, if_neg hb', if_pos hr]
        rfl
      rw [e]
      refine .failed (fun hs => ?_) hb rfl rfl
      rcases hr with hr | hr
      · obtain ⟨r, hreply⟩ := hs.2.1
        rw [hreply] at hr
        cases hr
      · exact absurd hs.2.2 (Int.not_le.mpr hr)
    · have e : (server.callWithin b operation call).trace h =
          ⟨(server.react h.server call).1.ending.outcome, server.afterCall call h,
            [⟨call, h.now, (server.afterCall call h).now, (server.react h.server call).1.ending⟩]⟩ := by
        simp only [Act.trace, Run.trips, callWithin, if_neg hb', if_neg hr]
        rfl
      obtain ⟨hnever, hend⟩ := not_or.mp hr
      rw [e]
      cases he : (server.react h.server call).1.ending with
      | reply r => exact .succeeded ⟨hb, ⟨r, he⟩, Int.not_lt.mp hend⟩ rfl rfl rfl
      | failure f =>
          have hs : ¬ server.SucceedsWithin b call h := server.not_succeedsWithin (by simp [he])
          exact .failed (t := ⟨call, h.now, (server.afterCall call h).now, .failure f⟩) hs hb rfl rfl
      | panic p =>
          have hs : ¬ server.SucceedsWithin b call h := server.not_succeedsWithin (by simp [he])
          exact .panicked (t := ⟨call, h.now, (server.afterCall call h).now, .panic p⟩) hs rfl rfl
      | never => exact absurd he hnever
  · have e : (server.callWithin b operation call).trace h =
        ⟨.failure (.timeout operation b.secs), h, []⟩ := by
      simp only [Act.trace, Run.trips, callWithin, if_pos hb]
      rfl
    rw [e]
    exact .refused (fun hs => absurd hs.1 (Int.not_lt.mpr hb)) hb

end Server

/-! ### One attempt -/

/-- One attempt at a connection: the hosts before and after it, and its round trips. -/
structure Attempt (σ : Type) where
  before : Host σ
  trips : List RoundTrip
  after : Host σ

namespace Service

variable (s : Service σ) (D : Option Instant)

/-- The budget of an attempt that starts now. -/
def attemptBudget (h : Host σ) : Budget := budgetAt D s.settings.connectSecs h.now

/-- The host when a connection has been acquired. -/
def acquiredOn (h : Host σ) : Host σ :=
  { s.server.afterCall .acquire h with handedOut := h.handedOut + 1 }

/-- Whether the acquire and the ping of an attempt that starts now both succeed within its budget. -/
def Verifies (h : Host σ) : Prop :=
  s.server.SucceedsWithin (s.attemptBudget D h) .acquire h ∧
    s.server.SucceedsWithin (s.attemptBudget D h) (.ping (h.handedOut + 1)) (s.acquiredOn h)

end Service

/-- What an attempt under a deadline may be that has failed. -/
inductive Attempt.Fails (s : Service σ) (D : Option Instant) : Attempt σ → Prop
  /-- The budget is used up from the start. -/
  | refused {h : Host σ} (hb : (s.attemptBudget D h).deadline ≤ h.now) : Fails s D ⟨h, [], h⟩
  | unacquired {h : Host σ} {t : RoundTrip} {state : σ} (hb : h.now < (s.attemptBudget D h).deadline)
      (ht : t.call = .acquire) (hts : t.succeeded = false) : Fails s D ⟨h, [t], h.afterTrip state t⟩
  /-- Acquiring has used up the budget, so that there is no ping. -/
  | unpinged {h : Host σ} {t d : RoundTrip} {state : σ} (hb : h.now < (s.attemptBudget D h).deadline)
      (ht : t.call = .acquire) (hts : t.succeeded = true)
      (hlate : (s.attemptBudget D h).deadline ≤ t.left) (hd : d.call = .discard (h.handedOut + 1)) :
      Fails s D ⟨h, [t, d], (s.acquiredOn h).afterTrip state d⟩
  | unanswered {h : Host σ} {t u d : RoundTrip} {state state' : σ}
      (hb : h.now < (s.attemptBudget D h).deadline) (ht : t.call = .acquire) (hts : t.succeeded = true)
      (hmade : t.left < (s.attemptBudget D h).deadline) (hu : u.call = .ping (h.handedOut + 1))
      (hus : u.succeeded = false) (hd : d.call = .discard (h.handedOut + 1)) :
      Fails s D ⟨h, [t, u, d], ((s.acquiredOn h).afterTrip state u).afterTrip state' d⟩

/-- How an attempt at a connection may end. -/
inductive AttemptEnds (s : Service σ) (D : Option Instant) (h : Host σ) : Trace σ ConnId → Prop
  | verified {t u : RoundTrip} {h' : Host σ} (hv : s.Verifies D h) (ht : t.call = .acquire)
      (hts : t.succeeded = true) (hu : u.call = .ping (h.handedOut + 1)) (hus : u.succeeded = true) :
      AttemptEnds s D h ⟨.value (h.handedOut + 1), h', [t, u]⟩
  | failed {a : Attempt σ} {f : Failure} (hbefore : a.before = h) (hv : ¬ s.Verifies D h)
      (ha : a.Fails s D) : AttemptEnds s D h ⟨.failure f, a.after, a.trips⟩
  | panicked {p : Payload} {h' : Host σ} {l : List RoundTrip} {t : RoundTrip} (ht : t ∈ l)
      (hp : t.ending = .panic p) : AttemptEnds s D h ⟨.panic p, h', l⟩
  /-- The clock cannot hold the end of the attempt. -/
  | overflowed (hc : Service.clockLimit ≤ h.now + s.settings.connectSecs * 1000) :
      AttemptEnds s D h ⟨.panic clockFault, h, []⟩

namespace Service

variable {s : Service σ} {D : Option Instant}

theorem trace_budgetAt (deadline : Option Instant) (secs : Nat) (h : Host σ) :
    (clockLimit ≤ h.now + secs * 1000 ∧
      (budget deadline secs : Act σ Budget).trace h = ⟨.panic clockFault, h, []⟩) ∨
    (budget deadline secs : Act σ Budget).trace h = ⟨.value (budgetAt deadline secs h.now), h, []⟩ := by
  rcases budget_cases deadline secs h with ⟨hc, e⟩ | ⟨_, ⟨_, _⟩, rfl, rfl, e⟩
  · exact .inl ⟨hc, by simp [Act.trace, Run.trips, e]⟩
  · exact .inr (by simp [Act.trace, Run.trips, e, budgetAt])

/-- The second half of an attempt, for the connection that the first one has acquired. -/
def verify (s : Service σ) (b : Budget) (c : ConnId) : Act σ ConnId := do
  match ← Act.settle (s.server.callWithin b "ping" (.ping c)) with
  | .value _ => return c
  | .failure f =>
    s.server.discard c
    Act.fail f
  | .panic p =>
    s.server.drop c
    Act.panic p

theorem trace_tryConnect (h : Host σ) : (s.tryConnect D).trace h =
    ((budget D s.settings.connectSecs).trace h).andThen fun b h =>
      ((s.server.callWithin b "acquire" .acquire).trace h).andThen fun _ h =>
        (s.verify b (h.handedOut + 1)).trace { h with handedOut := h.handedOut + 1 } := by
  have e : s.tryConnect D = (do
      let b ← budget D s.settings.connectSecs
      let _ ← s.server.callWithin b "acquire" .acquire
      let c ← Server.handOut
      s.verify b c) := rfl
  simp only [e, Act.trace_bind, Server.trace_handOut, Trace.andThen_value, Trace.after_nil]

theorem trace_verify (b : Budget) (c : ConnId) (h : Host σ) :
    (s.server.SucceedsWithin b (.ping c) h ∧ ∃ u h', u.call = .ping c ∧ u.succeeded = true ∧
      (s.verify b c).trace h = ⟨.value c, h', [u]⟩) ∨
    (¬ s.server.SucceedsWithin b (.ping c) h ∧ b.deadline ≤ h.now ∧ ∃ d state f, d.call = .discard c ∧
      (s.verify b c).trace h = ⟨.failure f, h.afterTrip state d, [d]⟩) ∨
    (¬ s.server.SucceedsWithin b (.ping c) h ∧ h.now < b.deadline ∧ ∃ u d state state' f,
      u.call = .ping c ∧ u.succeeded = false ∧ d.call = .discard c ∧
      (s.verify b c).trace h = ⟨.failure f, (h.afterTrip state u).afterTrip state' d, [u, d]⟩) ∨
    ∃ p u h', u.ending = .panic p ∧ (s.verify b c).trace h = ⟨.panic p, h', [u]⟩ := by
  have hping := s.server.callWithin_ends b "ping" (.ping c) h
  have hdiscard (f : Failure) (h : Host σ) : ∃ d state, d.call = .discard c ∧
      (do s.server.discard c; Act.fail f : Act σ ConnId).trace h =
        ⟨.failure f, h.afterTrip state d, [d]⟩ := by
    obtain ⟨d, state, hd, e⟩ := s.server.trace_discard c h
    exact ⟨d, state, hd, by simp [e]⟩
  simp only [verify, Act.trace_bind, Act.trace_settle]
  generalize (s.server.callWithin b "ping" (.ping c)).trace h = pinged at hping
  cases hping with
  | succeeded hs hu hus _ => exact .inl ⟨hs, _, _, hu, hus, rfl⟩
  | refused hs hlate =>
      obtain ⟨d, state, hd, e⟩ := hdiscard (.timeout "ping" b.secs) h
      exact .inr (.inl ⟨hs, hlate, d, state, .timeout "ping" b.secs, hd, by
        simp [Outcome.settled, e]⟩)
  | @failed f u state hs hmade hu hus =>
      obtain ⟨d, state', hd, e⟩ := hdiscard f (h.afterTrip state u)
      exact .inr (.inr (.inl ⟨hs, hmade, u, d, state, state', f, hu, hus, hd, by
        simp [Outcome.settled, e]⟩))
  | panicked hs hu hp => exact .inr (.inr (.inr ⟨_, _, _, hp, rfl⟩))

theorem tryConnect_ends (h : Host σ) : AttemptEnds s D h ((s.tryConnect D).trace h) := by
  rw [trace_tryConnect]
  rcases trace_budgetAt D s.settings.connectSecs h with ⟨hc, hb⟩ | hb
  · rw [hb]
    exact .overflowed hc
  rw [hb, Trace.andThen_value, Trace.after_nil]
  have hacquire := s.server.callWithin_ends (s.attemptBudget D h) "acquire" .acquire h
  rw [attemptBudget] at hacquire
  generalize (s.server.callWithin (budgetAt D s.settings.connectSecs h.now) "acquire" .acquire).trace h =
    acquired at hacquire
  cases hacquire with
  | refused hs hlate => exact .failed rfl (fun hv => hs hv.1) (.refused hlate)
  | failed hs hlate ht hts => exact .failed rfl (fun hv => hs hv.1) (.unacquired hlate ht hts)
  | panicked hs ht hp => exact .panicked List.mem_cons_self hp
  | @succeeded r t hs ht hts hleft =>
      -- the ping has what the acquire has left of their time
      rw [Trace.andThen_value]
      rcases trace_verify (s := s) (s.attemptBudget D h) (h.handedOut + 1) (s.acquiredOn h) with
        ⟨hs', u, h', hu, hus, e⟩ | ⟨hs', hlate, d, state, f, hd, e⟩ |
          ⟨hs', hmade, u, d, state, state', f, hu, hus, hd, e⟩ | ⟨p, u, h', hp, e⟩
      · exact e ▸ .verified ⟨hs, hs'⟩ ht hts hu hus
      · exact e ▸ .failed rfl (fun hv => hs' hv.2) (.unpinged hs.1 ht hts (hleft ▸ hlate) hd)
      · exact e ▸ .failed rfl (fun hv => hs' hv.2)
          (.unanswered hs.1 ht hts (hleft ▸ hmade) hu hus hd)
      · exact e ▸ .panicked (List.mem_cons_of_mem t List.mem_cons_self) hp

end Service

/-! ### Attempts one after another -/

/-- Attempts one after another, from a host on. -/
inductive Attempts : Host σ → List (Attempt σ) → Host σ → Prop
  | nil (h : Host σ) : Attempts h [] h
  | cons {a : Attempt σ} {l : List (Attempt σ)} {h : Host σ} (hl : Attempts a.after l h) :
      Attempts a.before (a :: l) h

/-- The connections that round trips discard, in order. -/
def RoundTrip.discards (l : List RoundTrip) : List ConnId := l.filterMap fun t => t.call.discarded?

/-- The connections handed out on the way from one host to another. -/
def Host.newSince (h h' : Host σ) : List ConnId :=
  List.range' (h.handedOut + 1) (h'.handedOut - h.handedOut)

theorem Host.newSince_append {h₁ h₂ h₃ : Host σ} (h₁₂ : h₁.handedOut ≤ h₂.handedOut)
    (h₂₃ : h₂.handedOut ≤ h₃.handedOut) : h₁.newSince h₂ ++ h₂.newSince h₃ = h₁.newSince h₃ := by
  have hnext : h₂.handedOut + 1 = h₁.handedOut + 1 + (h₂.handedOut - h₁.handedOut) := by omega
  rw [newSince, newSince, newSince, hnext, List.range'_append_1]
  congr 1
  omega

namespace Attempt

variable {s : Service σ} {D : Option Instant} {a : Attempt σ}

theorem Fails.discards_eq (ha : a.Fails s D) :
    a.before.handedOut ≤ a.after.handedOut ∧
    RoundTrip.discards a.trips = a.before.newSince a.after := by
  have hone (n : Nat) : n + 1 - n = 1 := Nat.add_sub_cancel_left n 1
  cases ha with
  | refused hb => simp [RoundTrip.discards, Host.newSince]
  | unacquired hb ht hts => simp [RoundTrip.discards, Host.newSince, ht, Call.discarded?]
  | unpinged hb ht hts hlate hd =>
      simp [RoundTrip.discards, Host.newSince, Service.acquiredOn, ht, hd, Call.discarded?, hone]
  | unanswered hb ht hts hmade hu hus hd =>
      simp [RoundTrip.discards, Host.newSince, Service.acquiredOn, ht, hu, hd, Call.discarded?, hone]

/-- An attempt makes a call only if it starts before the deadline. -/
theorem Fails.trips_eq_nil (ha : a.Fails s D) {d : Instant} (hd : D = some d)
    (hpast : d ≤ a.before.now) : a.trips = [] := by
  have hend : (s.attemptBudget D a.before).deadline ≤ a.before.now :=
    Int.le_trans ((Service.budgetAt_deadline_le D _ _).2 d hd) hpast
  cases ha with
  | refused hb => rfl
  | unacquired hb => exact absurd hb (Int.not_lt.mpr hend)
  | unpinged hb => exact absurd hb (Int.not_lt.mpr hend)
  | unanswered hb => exact absurd hb (Int.not_lt.mpr hend)

end Attempt

namespace Service

variable {s : Service σ} {D : Option Instant}

/-- The attempts at a connection fail one after another until one of them does not. -/
theorem connectWithin_ends (left : Nat) : ∀ (next : Nat) (h : Host σ), ∃ failed h₁,
    Attempts h failed h₁ ∧ (∀ a ∈ failed, a.Fails s D ∧ ¬ s.Verifies D a.before) ∧
    (failed.length = left ∧ (s.connectWithin D left next).trace h =
        ⟨.failure unreachable, h₁, failed.flatMap Attempt.trips⟩ ∨
      failed.length < left ∧ ∃ last, AttemptEnds s D h₁ last ∧ (∀ f, last.outcome ≠ .failure f) ∧
        (s.connectWithin D left next).trace h = last.after (failed.flatMap Attempt.trips)) := by
  induction left with
  | zero => exact fun _ h => ⟨[], h, .nil h, List.forall_mem_nil _, .inl ⟨rfl, rfl⟩⟩
  | succ left ih =>
      intro next h
      have htry := tryConnect_ends (s := s) (D := D) h
      simp only [connectWithin, Act.trace_bind, Act.trace_attempt]
      generalize (s.tryConnect D).trace h = last at htry
      by_cases hok : ∃ f, last.outcome = .failure f
      · obtain ⟨f, hf⟩ := hok
        cases htry with
        | verified => cases hf
        | panicked => cases hf
        | overflowed => cases hf
        | @failed a f hbefore hv ha =>
            obtain ⟨failed, h₁, hl, hall, hend⟩ := ih (next + 1) a.after
            refine ⟨a :: failed, h₁, hbefore ▸ .cons hl,
              List.forall_mem_cons.mpr ⟨⟨ha, hbefore ▸ hv⟩, hall⟩, ?_⟩
            rcases hend with ⟨hlen, e⟩ | ⟨hlen, last, hlast, hok, e⟩
            · exact .inl ⟨by rw [List.length_cons, hlen], by simp [Outcome.attempted, e]⟩
            · refine .inr ⟨by rw [List.length_cons]; omega, last, hlast, hok, ?_⟩
              simp [Outcome.attempted, e]
      · -- an attempt that ends otherwise is the last one
        refine ⟨[], h, .nil h, List.forall_mem_nil _, .inr ⟨Nat.succ_pos left, last, htry,
          fun f hf => hok ⟨f, hf⟩, ?_⟩⟩
        cases htry with
        | failed => exact absurd ⟨_, rfl⟩ hok
        | verified => simp [Outcome.attempted]
        | panicked => simp [Outcome.attempted]
        | overflowed => simp [Outcome.attempted]

/-- Failed attempts have discarded all connections that they have acquired, each once. -/
theorem discards_of_fails {h h₁ : Host σ} {failed : List (Attempt σ)} (hl : Attempts h failed h₁)
    (hall : ∀ a ∈ failed, a.Fails s D) : h.handedOut ≤ h₁.handedOut ∧
      RoundTrip.discards (failed.flatMap Attempt.trips) = h.newSince h₁ := by
  induction hl with
  | nil h => simp [RoundTrip.discards, Host.newSince]
  | @cons a l h₁ hl ih =>
      obtain ⟨ha, hrest⟩ := List.forall_mem_cons.mp hall
      obtain ⟨hle, hone⟩ := ha.discards_eq
      obtain ⟨hle', hmore⟩ := ih hrest
      refine ⟨Nat.le_trans hle hle', ?_⟩
      rw [RoundTrip.discards] at hone hmore
      rw [RoundTrip.discards, List.flatMap_cons, List.filterMap_append, hone, hmore]
      exact Host.newSince_append hle hle'

/-- **A connection comes from the first attempt that is good.**  Attempts at a connection fail one after
another, until the acquire and the ping of one both succeed within the budget of that attempt; its
connection is the result, and there is no call after its ping.  A failed attempt has discarded the
connection that it has acquired, if any, and makes no call when it starts at the deadline or later.  After
as many failed attempts as the configuration allows, at least one, the server counts as unreachable, and
every connection that was acquired has been discarded once.  Nothing else happens, unless a call panics or
the clock cannot hold the end of an attempt. -/
theorem acquires_first_verified (server : Server σ) (c : Config) (metered : Bool) (D : Option Instant)
    (h : Host σ) :
    let s : Service σ := ⟨server, { c.settings with metered := metered }⟩
    ∃ failed h₁, Attempts h failed h₁ ∧
      (∀ a ∈ failed, a.Fails s D ∧ ¬ s.Verifies D a.before ∧
        RoundTrip.discards a.trips = a.before.newSince a.after ∧
        ∀ d, D = some d → d ≤ a.before.now → a.trips = []) ∧
      (failed.length < max c.retries 1 ∧ s.Verifies D h₁ ∧ (∃ t u h₂,
          t.call = .acquire ∧ t.succeeded = true ∧
          u.call = .ping (h₁.handedOut + 1) ∧ u.succeeded = true ∧
          (s.acquireVerified D).trace h =
            ⟨.value (h₁.handedOut + 1), h₂, failed.flatMap Attempt.trips ++ [t, u]⟩) ∨
        failed.length = max c.retries 1 ∧
          (s.acquireVerified D).trace h =
            ⟨.failure unreachable, h₁, failed.flatMap Attempt.trips⟩ ∧
          RoundTrip.discards (failed.flatMap Attempt.trips) = h.newSince h₁ ∨
        failed.length < max c.retries 1 ∧ ∃ p h₂ l,
          (s.acquireVerified D).trace h = ⟨.panic p, h₂, failed.flatMap Attempt.trips ++ l⟩ ∧
          ((∃ t ∈ l, t.ending = .panic p) ∨ clockLimit ≤ h₁.now + c.connectSecs * 1000)) := by
  intro s
  obtain ⟨failed, h₁, hl, hall, hend⟩ := connectWithin_ends (s := s) (D := D) (max c.retries 1) 1 h
  refine ⟨failed, h₁, hl, fun a ha => ?_, ?_⟩
  · obtain ⟨hfails, hnot⟩ := hall a ha
    exact ⟨hfails, hnot, hfails.discards_eq.2, fun d hd hpast => hfails.trips_eq_nil hd hpast⟩
  have hall' : (s.acquireVerified D).trace h = (s.connectWithin D (max c.retries 1) 1).trace h := rfl
  rw [hall']
  rcases hend with ⟨hlen, e⟩ | ⟨hlen, last, hlast, hok, e⟩
  · exact .inr (.inl ⟨hlen, e, (discards_of_fails hl fun a ha => (hall a ha).1).2⟩)
  · rw [e]
    cases hlast with
    | verified hv ht hts hu hus => exact .inl ⟨hlen, hv, _, _, _, ht, hts, hu, hus, rfl⟩
    | failed => exact absurd rfl (hok _)
    | panicked ht hp => exact .inr (.inr ⟨hlen, _, _, _, rfl, .inl ⟨_, ht, hp⟩⟩)
    | overflowed hc => exact .inr (.inr ⟨hlen, _, _, _, rfl, .inr hc⟩)

/-- A service whose first connection does not answer. -/
def firstDeaf : Service Unit :=
  { plain (fun | .ping 1 => .failure (.internal "gone") | _ => .reply .done) with
    settings := ⟨3, 1, 1, 1, "db", false⟩ }

/-- The second connection is the result, and the first one has been discarded. -/
example : (firstDeaf.acquireVerified none (.fresh () 0)).outcome = .value 2 ∧
    RoundTrip.discards (firstDeaf.acquireVerified none (.fresh () 0)).trips = [1] := by decide +kernel

end Service

end SqlSession
