import SqlSession.Proofs.Act.Calls
import SqlSession.Proofs.Act.Contexts

/-! # Bounded calls of an act

A bounded call is asked for whether it is made or not: when the time for it is used up, it is not.
`Asks` says which bounded calls an act asks for, in order; those of them that were made are its bounded
round trips (`Asks.trips_eq`).  Each is made exactly if it is asked for before the end of its budget, is
given up at that end, and yields what the server says if that comes by then (`Inquiry.Lawful`). -/

namespace SqlSession

/-- A call that is bounded by a budget. -/
def Call.isBounded : Call → Bool
  | release _ => false
  | close _ => false
  | discard _ => false
  | _ => true

/-- The name under which a call times out. -/
def Call.operation : Call → String
  | acquire => "acquire"
  | pingServer => "ping"
  | ping _ => "ping"
  | begin _ => "begin"
  | commit _ => "commit"
  | rollback _ => "rollback"
  | fetch .. => "select"
  | execute .. => "execute"
  | release _ => "release"
  | close _ => "close"
  | discard _ => "discard"

/-- A bounded call that is asked for, with what the server has to say to it, whether it is made or not. -/
structure Inquiry where
  operation : String
  call : Call
  budget : Budget
  asked : Instant
  reaction : Reaction
  /-- What the act has got for it. -/
  yielded : Outcome Reply
  /-- The round trip, if the call was made. -/
  trip? : Option RoundTrip

namespace Inquiry

/-- Whether the call has ended by the end of its budget. -/
def Completes (i : Inquiry) : Prop :=
  i.asked < i.budget.deadline ∧ i.reaction.ending ≠ .never ∧
    i.asked + i.reaction.delay ≤ i.budget.deadline

/-- A call that was bounded as it should be. -/
structure Lawful (i : Inquiry) : Prop where
  made : (∃ t, i.trip? = some t) ↔ i.asked < i.budget.deadline
  completed : i.Completes → i.yielded = i.reaction.ending.outcome ∧
    i.trip? = some ⟨i.call, i.asked, i.asked + i.reaction.delay, i.reaction.ending⟩
  late : ¬ i.Completes → i.yielded = .failure (.timeout i.operation i.budget.secs) ∧
    ∀ t, i.trip? = some t → t = ⟨i.call, i.asked, i.budget.deadline, .never⟩

/-- A call that was made has been made before the end of its budget, and left by then. -/
theorem Lawful.within {i : Inquiry} (hi : i.Lawful) {t : RoundTrip} (ht : i.trip? = some t) :
    t.call = i.call ∧ t.started < i.budget.deadline ∧ t.left ≤ i.budget.deadline := by
  have hmade : i.asked < i.budget.deadline := hi.made.mp ⟨t, ht⟩
  by_cases hc : i.Completes
  · rw [(hi.completed hc).2] at ht
    obtain rfl := Option.some.inj ht
    exact ⟨rfl, hmade, hc.2.2⟩
  · obtain rfl := (hi.late hc).2 t ht
    exact ⟨rfl, hmade, Int.le_refl _⟩

theorem Lawful.asked_le {i : Inquiry} (hi : i.Lawful) {t : RoundTrip} (ht : i.trip? = some t) :
    t.started = i.asked ∧ i.asked ≤ t.left := by
  have hmade : i.asked < i.budget.deadline := hi.made.mp ⟨t, ht⟩
  by_cases hc : i.Completes
  · rw [(hi.completed hc).2] at ht
    obtain rfl := Option.some.inj ht
    exact ⟨rfl, Int.le_add_of_nonneg_right (Int.natCast_nonneg _)⟩
  · obtain rfl := (hi.late hc).2 t ht
    exact ⟨rfl, Int.le_of_lt hmade⟩

end Inquiry

/-- What is asked by a bounded call. -/
def Server.inquiry (server : Server σ) (b : Budget) (operation : String) (call : Call) (h : Host σ) :
    Inquiry where
  operation := operation
  call := call
  budget := b
  asked := h.now
  reaction := (server.react h.server call).1
  yielded := (server.callWithin b operation call h).outcome
  trip? := (server.callWithin b operation call h).trips.head?

theorem Server.inquiry_refused (server : Server σ) {b : Budget} (operation : String) (call : Call)
    {h : Host σ} (hb : b.deadline ≤ h.now) :
    (server.inquiry b operation call h).yielded = .failure (.timeout operation b.secs) ∧
    (server.inquiry b operation call h).trip? = none := by
  simp only [inquiry, callWithin, if_pos hb]
  exact ⟨trivial, rfl⟩

theorem Server.inquiry_givenUp (server : Server σ) {b : Budget} (operation : String) (call : Call)
    {h : Host σ} (hb : h.now < b.deadline) (hr : (server.react h.server call).1.ending = .never ∨
      b.deadline < h.now + (server.react h.server call).1.delay) :
    (server.inquiry b operation call h).yielded = .failure (.timeout operation b.secs) ∧
    (server.inquiry b operation call h).trip? = some ⟨call, h.now, b.deadline, .never⟩ := by
  simp only [inquiry, callWithin, if_neg (Int.not_le.mpr hb), if_pos hr]
  exact ⟨trivial, rfl⟩

theorem Server.inquiry_completed (server : Server σ) {b : Budget} (operation : String) (call : Call)
    {h : Host σ} (hc : (server.inquiry b operation call h).Completes) :
    (server.inquiry b operation call h).yielded = (server.react h.server call).1.ending.outcome ∧
    (server.inquiry b operation call h).trip? = some ⟨call, h.now,
      h.now + (server.react h.server call).1.delay, (server.react h.server call).1.ending⟩ := by
  obtain ⟨hb, hn, hd⟩ := hc
  have hb' : ¬ b.deadline ≤ h.now := Int.not_le.mpr hb
  have hr : ¬ ((server.react h.server call).1.ending = .never ∨
      b.deadline < h.now + (server.react h.server call).1.delay) :=
    not_or.mpr ⟨hn, Int.not_lt.mpr hd⟩
  simp only [inquiry, callWithin, if_neg hb', if_neg hr]
  exact ⟨trivial, rfl⟩

theorem Server.inquiry_lawful (server : Server σ) (b : Budget) (operation : String) (call : Call)
    (h : Host σ) : (server.inquiry b operation call h).Lawful := by
  rcases Int.lt_or_le h.now b.deadline with hb | hb
  · by_cases hc : (server.inquiry b operation call h).Completes
    · have hdone := server.inquiry_completed operation call hc
      exact ⟨⟨fun _ => hb, fun _ => ⟨_, hdone.2⟩⟩, fun _ => hdone, fun hn => absurd hc hn⟩
    · have hr : (server.react h.server call).1.ending = .never ∨
          b.deadline < h.now + (server.react h.server call).1.delay :=
        Classical.byContradiction fun hr =>
          have ⟨hn, hd⟩ := not_or.mp hr
          hc ⟨hb, hn, Int.not_lt.mp hd⟩
      have hup := server.inquiry_givenUp operation call hb hr
      exact ⟨⟨fun _ => hb, fun _ => ⟨_, hup.2⟩⟩, fun hd => absurd hd hc,
        fun _ => ⟨hup.1, fun t ht => Option.some.inj (ht.symm.trans hup.2)⟩⟩
  · have hno := server.inquiry_refused operation call hb
    have hnot : ¬ (server.inquiry b operation call h).asked <
        (server.inquiry b operation call h).budget.deadline := Int.not_lt.mpr hb
    refine ⟨⟨fun ⟨t, ht⟩ => ?_, fun hlt => absurd hlt hnot⟩, fun hc => absurd hc.1 hnot,
      fun _ => ⟨hno.1, fun t ht => ?_⟩⟩
    · exact nomatch hno.2.symm.trans ht
    · exact nomatch hno.2.symm.trans ht

theorem Server.inquiry_answered (server : Server σ) {b : Budget} {operation : String} {call : Call}
    {h : Host σ} {r : Reply} (hr : (server.callWithin b operation call h).outcome = .value r) :
    ∃ t, (server.inquiry b operation call h).trip? = some t ∧
      (server.callWithin b operation call h).host.now = t.left := by
  have htrip : (server.inquiry b operation call h).trip? =
      (server.callWithin b operation call h).trips.head? := rfl
  rcases server.callWithin_cases b operation call h with ⟨_, e⟩ | ⟨_, t, state, _, _, e⟩
  · rw [e] at hr
    cases hr
  · rw [htrip, e]
    exact ⟨t, rfl, rfl⟩

/-! ### The bounded calls that an act asks for -/

/-- The bounded calls that an act asks for when it is done on a host. -/
inductive Asks (server : Server σ) : {α : Type} → Act σ α → Host σ → List Inquiry → Prop
  | pure {α : Type} (a : α) (h : Host σ) : Asks server (Pure.pure a : Act σ α) h []
  | fail {α : Type} (f : Failure) (h : Host σ) : Asks server (Act.fail f : Act σ α) h []
  | panic {α : Type} (p : Payload) (h : Host σ) : Asks server (Act.panic p : Act σ α) h []
  | log (e : Event) (h : Host σ) : Asks server (Act.log e) h []
  | context (id : String) (h : Host σ) : Asks server (Act.context id) h []
  | store (x : Context) (h : Host σ) : Asks server (Act.store x) h []
  | handOut (h : Host σ) : Asks server Server.handOut h []
  | budget (deadline : Option Instant) (secs : Nat) (h : Host σ) :
      Asks server (Service.budget deadline secs) h []
  | release (c : ConnId) (h : Host σ) : Asks server (server.call (.release c)) h []
  | discard (c : ConnId) (h : Host σ) : Asks server (server.discard c) h []
  | drop (c : ConnId) (h : Host σ) : Asks server (server.drop c) h []
  | callWithin (b : Budget) (operation : String) {call : Call} (hc : call.isBounded = true)
      (h : Host σ) :
      Asks server (server.callWithin b operation call) h [server.inquiry b operation call h]
  | bind {α β : Type} {x : Act σ α} {k : α → Act σ β} {h : Host σ} {a : α} {l m : List Inquiry}
      (hx : Asks server x h l) (ho : (x h).outcome = .value a) (hk : Asks server (k a) (x h).host m) :
      Asks server (x >>= k) h (l ++ m)
  | stop {α β : Type} {x : Act σ α} {k : α → Act σ β} {h : Host σ} {l : List Inquiry}
      (hx : Asks server x h l) (ho : ∀ a, (x h).outcome ≠ .value a) : Asks server (x >>= k) h l
  | settle {α : Type} {x : Act σ α} {h : Host σ} {l : List Inquiry} (hx : Asks server x h l) :
      Asks server (Act.settle x) h l
  | attempt {α : Type} {x : Act σ α} {h : Host σ} {l : List Inquiry} (hx : Asks server x h l) :
      Asks server (Act.attempt x) h l
  | observe {α : Type} {x : Act σ α} {h : Host σ} {l : List Inquiry} (s : Service σ)
      (operation : String) (hx : Asks server x h l) : Asks server (s.observe operation x) h l

namespace Asks

variable {server : Server σ} {x : Act σ α} {h : Host σ} {l : List Inquiry}

theorem after_budget {deadline : Option Instant} {secs : Nat} {b : Budget} {k : Budget → Act σ β}
    (e : Service.budget deadline secs h = ⟨.value b, h, []⟩) (hk : Asks server (k b) h l) :
    Asks server (Service.budget deadline secs >>= k) h l := by
  have hb : (Service.budget deadline secs h).outcome = .value b := by rw [e]
  have hnext : Asks server (k b) (Service.budget deadline secs h).host l := by
    rw [e]
    exact hk
  exact .bind (.budget deadline secs h) hb hnext

theorem then_quiet {k : α → Act σ β} (hx : Asks server x h l) (hk : ∀ a h, Asks server (k a) h []) :
    Asks server (x >>= k) h l := by
  cases ho : (x h).outcome with
  | value a =>
      have hboth := hx.bind ho (hk a (x h).host)
      rwa [List.append_nil] at hboth
  | failure f => exact .stop hx (by simp [ho])
  | panic p => exact .stop hx (by simp [ho])
  | hang => exact .stop hx (by simp [ho])

theorem lawful (hx : Asks server x h l) : ∀ i ∈ l, i.Lawful := by
  induction hx with
  | @callWithin b operation call _ h =>
      intro i hi
      obtain rfl := List.mem_singleton.mp hi
      exact server.inquiry_lawful b operation call h
  | bind _ _ _ ihx ihk =>
      intro i hi
      exact (List.mem_append.mp hi).elim (ihx i) (ihk i)
  | stop _ _ ih => exact ih
  | settle _ ih => exact ih
  | attempt _ ih => exact ih
  | observe _ _ _ ih => exact ih
  | _ => exact List.forall_mem_nil _

/-- The bounded round trips of an act are those of the calls it asks for. -/
theorem trips_eq (hx : Asks server x h l) :
    (x.trace h).trips.filter (·.call.isBounded) = l.filterMap Inquiry.trip? := by
  induction hx with
  | budget deadline secs h =>
      rcases Service.trace_budget deadline secs h with ⟨_, e⟩ | ⟨b, e⟩ <;> rw [e] <;> rfl
  | @callWithin b operation call hc h =>
      have hhead : (server.inquiry b operation call h).trip? =
          ((server.callWithin b operation call).trace h).trips.head? := rfl
      rw [List.filterMap_cons, List.filterMap_nil, hhead]
      rcases server.trace_callWithin b operation call h with ⟨_, e⟩ | ⟨t, state, ha, e⟩
      · rw [e]
        rfl
      · have ht : t.call.isBounded = true := by rw [ha.call_eq, hc]
        simp [e, ht]
  | @bind _ _ x k h a l m _ ho _ ihx ihk =>
      have e : ((x >>= k).trace h).trips = (x.trace h).trips ++ ((k a).trace (x h).host).trips := by
        simp only [Act.trace, Run.trips, Act.bind_of_value ho, List.filterMap_append]
      rw [e, List.filter_append, List.filterMap_append, ihx, ihk]
  | @stop _ _ x k h l _ ho ih =>
      have e : ((x >>= k).trace h).trips = (x.trace h).trips := by
        simp only [Act.trace, Run.trips, (Act.bind_of_stop ho).2]
      rw [e, ih]
  | settle _ ih => simpa only [Act.trace_settle, Trace.withOutcome] using ih
  | attempt _ ih => simpa only [Act.trace_attempt, Trace.withOutcome] using ih
  | observe s operation _ ih => rw [s.trace_observe operation, ih]
  | _ => rfl

end Asks

end SqlSession
