import SqlSession.Proofs.Transaction.Flat

/-! # Operations on one transaction

What begin, commit, rollback and close do to a context, whether it holds nothing, a connection or an open
transaction: which calls they make, and how they leave the context.  The end of a transaction makes the calls of the
end of a flat one (`trace_commit_of_outer`, `trace_conclude_of_open`). -/

namespace SqlSession

/-- What the end of the transaction on `c` may leave in a context: nothing, or the open transaction,
which no call of the end has ended. -/
def Closing (id : String) (c : ConnId) (deadline : Option Instant) (tail : Trace σ Unit)
    (h : Host σ) : Prop :=
  h.context id = .vacant id deadline ∨ (∃ n, h.context id = .opened id c (n + 1) deadline) ∧
    tail.outcome ≠ .value () ∧ ∀ t ∈ tail.trips, t.succeeded = false

/-- What a begin that was not answered leaves of its connection `c`, with the calls of doing so: it is
discarded if it has been acquired for this begin, and else it stays in the context. -/
inductive Unstarted (id : String) (c : ConnId) (deadline : Option Instant) :
    Bool → Context → List RoundTrip → Prop
  | discarded {d : RoundTrip} (hd : d.call = .discard c) :
      Unstarted id c deadline true (.vacant id deadline) [d]
  | kept : Unstarted id c deadline false (.idle id c deadline) []

namespace Service

variable {s : Service σ} {id : String} {c : ConnId} {deadline : Option Instant} {h : Host σ}

/-! ### Begin on a context that holds nothing -/

theorem aloof_tryConnect (s : Service σ) (deadline : Option Instant) :
    (s.tryConnect deadline).Aloof := by
  refine .bind (.budget _ _) fun b => .bind (.callWithin _ _ _ _) fun _ => .bind .handOut fun c =>
    .bind (.settle (.callWithin _ _ _ _)) fun ended => ?_
  cases ended with
  | value r => exact .pure c
  | failure f => exact .bind (.discard _ _) fun _ => .fail f
  | panic p => exact .bind (.drop _ _) fun _ => .panic p

theorem aloof_connectWithin (s : Service σ) (deadline : Option Instant) :
    ∀ left next, (s.connectWithin deadline left next).Aloof
  | 0, next => .bind (.log _) fun _ => .fail _
  | left + 1, next => by
      refine .bind (.attempt (s.aloof_tryConnect deadline)) fun ended => ?_
      cases ended with
      | ok c => exact .pure c
      | error f => exact .bind (.log _) fun _ => s.aloof_connectWithin deadline left (next + 1)

theorem aloof_acquireVerified (s : Service σ) (deadline : Option Instant) :
    (s.acquireVerified deadline).Aloof := s.aloof_connectWithin deadline _ _

/-- Starting the transaction of a connection.  If the begin was answered the context has the
transaction.  If it failed or was given up, a connection that has just been acquired is discarded, and
one that the context held before stays there.  After a panic the context is left for the caller to clean
up. -/
theorem trace_startTransaction (acquired : Bool) (ho : h.context id = .idle id c deadline) :
    (∃ t h', t.call = .begin c ∧ t.succeeded = true ∧ h'.context id = .opened id c 1 deadline ∧
      (s.startTransaction (.idle id c deadline) acquired).trace h = ⟨.value (), h', [t]⟩) ∨
    (∃ f h' l m, (∀ t ∈ l, t.call = .begin c) ∧
      (∃ left, h'.context id = left ∧ Unstarted id c deadline acquired left m) ∧
      (s.startTransaction (.idle id c deadline) acquired).trace h = ⟨.failure f, h', l ++ m⟩) ∨
    ∃ p h' l, h'.context id = .idle id c deadline ∧ (∀ t ∈ l, t.ending = .panic p) ∧
      (s.startTransaction (.idle id c deadline) acquired).trace h = ⟨.panic p, h', l⟩ := by
  rcases trace_budget deadline s.settings.writeSecs h with ⟨_, hb⟩ | ⟨b, hb⟩
  · exact .inr (.inr ⟨clockFault, h, [], ho, List.forall_mem_nil _,
      by simp [startTransaction, Context.idle, hb]⟩)
  -- what a call that gave a failure leaves behind
  have hfailed : ∀ f h' l, h'.context id = .idle id c deadline → (∀ t ∈ l, t.call = .begin c) →
      (s.server.callWithin b "begin" (.begin c)).trace h = ⟨.failure f, h', l⟩ →
      ∃ f h' l m, (∀ t ∈ l, t.call = .begin c) ∧
        (∃ left, h'.context id = left ∧ Unstarted id c deadline acquired left m) ∧
        (s.startTransaction (.idle id c deadline) acquired).trace h = ⟨.failure f, h', l ++ m⟩ := by
    intro f h' l hidle hl hw
    cases acquired with
    | false =>
        refine ⟨f, h', l, [], hl, ⟨_, hidle, .kept⟩, ?_⟩
        simp [startTransaction, Context.idle, Handle.conn?, hb, hw, Outcome.attempted]
    | true =>
        obtain ⟨d, state, hcall, hd⟩ := s.server.trace_discard c (h'.put (.vacant id deadline))
        refine ⟨f, (h'.put (.vacant id deadline)).afterTrip state d, l, [d], hl,
          ⟨_, Host.context_put rfl, .discarded hcall⟩, ?_⟩
        simp only [Context.vacant] at hd
        simp [startTransaction, Context.idle, Handle.conn?, hb, hw, Outcome.attempted, Context.vacant, hd]
  rcases s.server.trace_callWithin b "begin" (.begin c) h with ⟨_, hw⟩ | ⟨t, state, ha, hw⟩
  · exact .inr (.inl (hfailed _ h [] ho (List.forall_mem_nil _) hw))
  have hone : ∀ u ∈ [t], u.call = .begin c := fun u hu => List.mem_singleton.mp hu ▸ ha.call_eq
  cases he : t.ending with
  | reply r =>
      refine .inl ⟨t, (h.afterTrip state t).put (.opened id c 1 deadline), ha.call_eq,
        RoundTrip.succeeded_of_reply he, Host.context_put rfl, ?_⟩
      simp [startTransaction, Context.idle, Handle.conn?, hb, hw, RoundTrip.outcome, he, Ending.outcome,
        Outcome.attempted, Context.opened]
  | failure f =>
      rw [show t.outcome b "begin" = .failure f by simp [RoundTrip.outcome, he, Ending.outcome]] at hw
      exact .inr (.inl (hfailed f (h.afterTrip state t) [t] ho hone hw))
  | never =>
      rw [show t.outcome b "begin" = .failure (.timeout "begin" b.secs) by
        simp [RoundTrip.outcome, he]] at hw
      exact .inr (.inl (hfailed _ (h.afterTrip state t) [t] ho hone hw))
  | panic p =>
      refine .inr (.inr ⟨p, h.afterTrip state t, [t], ho,
        fun u hu => List.mem_singleton.mp hu ▸ he, ?_⟩)
      simp [startTransaction, Context.idle, Handle.conn?, hb, hw, RoundTrip.outcome, he, Ending.outcome,
        Outcome.attempted]

theorem trace_startTransaction_of_not_holds (acquired : Bool)
    (hc : ¬ Holds h.now s.settings.writeSecs) :
    (s.startTransaction (.idle id c deadline) acquired).trace h = ⟨.panic clockFault, h, []⟩ := by
  have hbudget := trace_budget_of_not_holds deadline hc
  simp [startTransaction, Context.idle, hbudget]

/-- After a panic a connection without a transaction is discarded. -/
theorem trace_discardUnknown (ho : h.context id = .idle id c deadline) :
    ∃ h' d, d.call = .discard c ∧ h'.context id = .vacant id deadline ∧
      (s.discardUnknown id).trace h = ⟨.value (), h', [d]⟩ := by
  obtain ⟨d, state, hcall, hd⟩ := s.server.trace_discard c (h.put (.vacant id deadline))
  refine ⟨(h.put (.vacant id deadline)).afterTrip state d, d, hcall, Host.context_put rfl, ?_⟩
  simp only [Context.vacant] at hd
  simp [discardUnknown, ho, Context.idle, Handle.conn?, Context.vacant, hd]

theorem trace_discardUnknown_of_vacant (ho : h.context id = .vacant id deadline) :
    (s.discardUnknown id).trace h = ⟨.value (), h, []⟩ := by
  simp [discardUnknown, ho, Context.vacant, Handle.conn?]

theorem trace_beginUnguarded_of_idle (ho : h.context id = .idle id c deadline) :
    (s.beginUnguarded id).trace h = (s.startTransaction (.idle id c deadline) false).trace h := by
  simp only [Context.idle] at ho ⊢
  simp [beginUnguarded, ho, Handle.isDetached]

theorem trace_beginUnguarded_of_acquired {h' : Host σ} {l : List RoundTrip}
    (ho : h.context id = .vacant id deadline)
    (hacq : (s.acquireVerified deadline).trace h = ⟨.value c, h', l⟩) :
    (s.beginUnguarded id).trace h = ((s.startTransaction (.idle id c deadline) true).trace
      (h'.put (.idle id c deadline))).after l := by
  have hheld : (h'.put (.idle id c deadline)).context id = .idle id c deadline :=
    Host.context_put rfl
  simp only [Context.idle] at hheld ⊢
  simp [beginUnguarded, ho, Context.vacant, Handle.isDetached, hacq, hheld]

theorem trace_begin_of_failure {f : Failure} {h' : Host σ} {l : List RoundTrip}
    (hun : (s.beginUnguarded id).trace h = ⟨.failure f, h', l⟩) :
    (s.begin id).trace h = ⟨.failure f, h', l⟩ := by
  simp [begin, hun, Outcome.settled]

theorem trace_begin_of_panic {p : Payload} {h' h'' : Host σ} {l m : List RoundTrip}
    (hun : (s.beginUnguarded id).trace h = ⟨.panic p, h', l⟩)
    (hd : (s.discardUnknown id).trace h' = ⟨.value (), h'', m⟩) : (s.begin id).trace h =
      ⟨.failure (.transaction ("begin failed: " ++ p.message) id), h'', l ++ m⟩ := by
  simp [begin, hun, hd, Outcome.settled]

/-- The calls of a begin are those made before a panic is caught, and those of cleaning up after it. -/
theorem mem_trips_begin {t : RoundTrip} (ht : t ∈ ((s.begin id).trace h).trips) :
    t ∈ ((s.beginUnguarded id).trace h).trips ∨ ∃ h', t ∈ ((s.discardUnknown id).trace h').trips := by
  simp only [begin, trace_observe, Act.trace_bind, Act.trace_settle] at ht
  generalize (s.beginUnguarded id).trace h = run at ht ⊢
  obtain ⟨o, h', l⟩ := run
  cases o with
  | value a => exact .inl (by simpa [Outcome.settled] using ht)
  | failure f => exact .inl (by simpa [Outcome.settled] using ht)
  | hang => exact .inl (by simpa [Outcome.settled] using ht)
  | panic p =>
      simp only [Outcome.settled, Trace.withOutcome_mk, Trace.andThen_value, Act.trace_bind,
        Act.trace_log, Trace.after_nil, Trace.trips_after, List.mem_append] at ht
      rcases ht with ht | ht
      · exact .inl ht
      · refine .inr ⟨h', ?_⟩
        rcases hd : (s.discardUnknown id).trace h' with ⟨o', h'', m⟩
        rw [hd] at ht
        cases o' <;> simpa using ht

/-- A begin on a context that holds nothing either succeeds with a begin that was answered, and opens
the transaction of a connection, or leaves the context as it was. -/
theorem begin_of_vacant (ho : h.context id = .vacant id deadline) :
    (∃ c l t h', t.call = .begin c ∧ t.succeeded = true ∧ h'.context id = .opened id c 1 deadline ∧
      (s.begin id).trace h = ⟨.value (), h', l ++ [t]⟩) ∨
    (((s.begin id).trace h).outcome ≠ .value () ∧
      ((s.begin id).trace h).host.context id = .vacant id deadline) := by
  have hctx := (s.aloof_acquireVerified deadline).context_eq h id
  rcases hacq : (s.acquireVerified deadline).trace h with ⟨o, h', l⟩
  rw [hacq, ho] at hctx
  have hvacant : h'.context id = ⟨id, .detached, 0, deadline⟩ := hctx
  cases o with
  | value c =>
      have hun := trace_beginUnguarded_of_acquired (s := s) ho hacq
      rcases trace_startTransaction (s := s) true (Host.context_put (h := h') (c := .idle id c deadline)
          rfl) with
        ⟨t, h'', ht, hts, hopen, hst⟩ | ⟨f, h'', m, m', _, ⟨left, hctx, hleft⟩, hst⟩ |
          ⟨p, h'', m, hleft, _, hst⟩
      · refine .inl ⟨c, l, t, h'', ht, hts, hopen, ?_⟩
        simp [begin, hun, hst, Outcome.settled]
      · right
        cases hleft
        simp [begin, hun, hst, Outcome.settled, hctx]
      · right
        obtain ⟨h₃, d, _, hvacant, hd⟩ := trace_discardUnknown (s := s) hleft
        simp [begin, hun, hst, Outcome.settled, hd, hvacant]
  | failure f => simp [begin, beginUnguarded, ho, Context.vacant, Handle.isDetached, hacq, hvacant,
      Outcome.settled]
  | panic p => simp [begin, beginUnguarded, ho, Context.vacant, Handle.isDetached, hacq, hvacant,
      Outcome.settled, discardUnknown, Handle.conn?]
  | hang => simp [begin, beginUnguarded, ho, Context.vacant, Handle.isDetached, hacq, hvacant,
      Outcome.settled]

/-! ### Operations on an open transaction -/

section
variable {n : Nat}

theorem trace_begin_of_open (ho : h.context id = .opened id c (n + 1) deadline) :
    (s.begin id).trace h = ⟨.value (), h.put (.opened id c (n + 2) deadline), []⟩ := by
  simp [begin, beginUnguarded, joinTransaction, ho, Context.opened, Handle.isDetached,
    Handle.inTransaction, Outcome.settled]

theorem trace_commit_of_nested (ho : h.context id = .opened id c (n + 2) deadline) :
    (s.commit id).trace h = ⟨.value (), h.put (.opened id c (n + 1) deadline), []⟩ := by
  simp [commit, ho, Context.opened, Handle.inTransaction]

theorem trace_releaseCommitted (h : Host σ) : (s.releaseCommitted id c).trace h =
    ((s.server.call (.release c)).trace h).andThen fun _ h => ⟨.value (), h, []⟩ := by
  simp only [releaseCommitted, Act.trace_bind, Act.trace_attempt]
  rcases (s.server.call (.release c)).trace h with ⟨o, h', l⟩
  cases o <;> simp [Outcome.attempted]

/-- The outermost commit makes the calls of a flat one.  It leaves nothing in the context if the server
has committed, and else the context as it was. -/
theorem trace_commit_cases (ho : h.context id = .opened id c 1 deadline) :
    ∃ h', (s.commit id).trace h =
      ⟨((s.commitOn c deadline).trace h).outcome, h', ((s.commitOn c deadline).trace h).trips⟩ ∧
      (h'.context id = .vacant id deadline ∧ (∃ t r, t.call = .commit c ∧ t.succeeded = true ∧
          r.call = .release c ∧ ((s.commitOn c deadline).trace h).trips = [t, r] ∧
          ((s.commitOn c deadline).trace h).outcome = r.ending.done) ∨
        h'.context id = .opened id c 1 deadline ∧
          ((s.commitOn c deadline).trace h).outcome ≠ .value () ∧
          ∀ t ∈ ((s.commitOn c deadline).trace h).trips, t.succeeded = false) := by
  rcases trace_budget deadline s.settings.writeSecs h with ⟨_, hb⟩ | ⟨b, hb⟩
  · refine ⟨h, ?_, .inr ⟨ho, ?_, ?_⟩⟩
    · simp [commit, commitOn, ho, Context.opened, Handle.inTransaction, hb]
    · simp [commitOn, hb]
    · simp [commitOn, hb]
  rcases s.server.trace_callWithin b "commit" (.commit c) h with ⟨_, hw⟩ | ⟨t, state, ha, hw⟩
  · refine ⟨h, ?_, .inr ⟨ho, ?_, ?_⟩⟩
    · simp [commit, commitOn, ho, Context.opened, Handle.inTransaction, Handle.conn?, hb, hw]
    · simp [commitOn, hb, hw]
    · simp [commitOn, hb, hw]
  cases he : t.ending with
  | reply _ =>
      -- the context is stored before the release, which has nothing to do with it
      have hput := (Act.Aloof.call s.server (.release c)).trace_put (h.afterTrip state t)
        (.vacant id deadline)
      obtain ⟨r, state', hr, hcall⟩ := s.server.trace_call (.release c) (h.afterTrip state t)
      simp only [hcall, Context.vacant] at hput
      refine ⟨((h.afterTrip state t).afterTrip state' r).put (.vacant id deadline), ?_,
        .inl ⟨Host.context_put rfl, t, r, ha.call_eq, RoundTrip.succeeded_of_reply he, hr.call_eq, ?_⟩⟩
      · cases hre : r.ending <;>
          simp [commit, commitOn, ho, Context.opened, Context.vacant, Handle.inTransaction, Handle.conn?,
            hb, hw, RoundTrip.outcome, he, Ending.outcome, trace_releaseCommitted, hput, hcall, hre]
      · cases hre : r.ending <;>
          simp [commitOn, hb, hw, RoundTrip.outcome, he, Ending.outcome, Ending.done, hcall, hre]
  | _ =>
      refine ⟨h.afterTrip state t, ?_, .inr ⟨ho, ?_, ?_⟩⟩
      · simp [commit, commitOn, ho, Context.opened, Handle.inTransaction, Handle.conn?, hb, hw,
          RoundTrip.outcome, he, Ending.outcome]
      · simp [commitOn, hb, hw, RoundTrip.outcome, he, Ending.outcome]
      · simp [commitOn, hb, hw, RoundTrip.outcome, he, Ending.outcome, RoundTrip.succeeded]

theorem trace_commit_of_outer (ho : h.context id = .opened id c 1 deadline) :
    ∃ h', (s.commit id).trace h =
      ⟨((s.commitOn c deadline).trace h).outcome, h', ((s.commitOn c deadline).trace h).trips⟩ ∧
      Closing id c deadline ((s.commitOn c deadline).trace h) h' := by
  obtain ⟨h', e, ⟨hvacant, -⟩ | ⟨hopen, hfault⟩⟩ := trace_commit_cases (s := s) ho
  · exact ⟨h', e, .inl hvacant⟩
  · exact ⟨h', e, .inr ⟨⟨0, hopen⟩, hfault⟩⟩

/-- A rollback at any level makes the calls of a flat one.  It leaves nothing in the context, unless the
clock stops it before its call or its call panics. -/
theorem trace_rollback_cases (ho : h.context id = .opened id c (n + 1) deadline) :
    ∃ h', (s.rollback id).trace h =
      ⟨((s.rollbackOn c deadline).trace h).outcome, h', ((s.rollbackOn c deadline).trace h).trips⟩ ∧
      (h'.context id = .vacant id deadline ∨
        clockLimit ≤ h.now + s.settings.writeSecs * 1000 ∧ h' = h ∧
          (s.rollbackOn c deadline).trace h = ⟨.panic clockFault, h, []⟩ ∨
        ∃ t ∈ ((s.rollbackOn c deadline).trace h).trips, s.server.Answers h (.rollback c) t ∧
          ∃ p, t.ending = .panic p ∧ ((s.rollbackOn c deadline).trace h).outcome = .panic p) := by
  rcases trace_budget deadline s.settings.writeSecs h with ⟨hc, hb⟩ | ⟨b, hb⟩
  · refine ⟨h, ?_, .inr (.inl ⟨hc, rfl, ?_⟩)⟩
    · simp [rollback, rollbackOn, ho, Context.opened, Handle.inTransaction, hb]
    · simp [rollbackOn, hb]
  -- in every other case the context is stored before the connection is given away
  have hrelease (h : Host σ) := (Act.Aloof.call s.server (.release c)).trace_put h (.vacant id deadline)
  have hdiscard (h : Host σ) := (Act.Aloof.discard s.server c).trace_put h (.vacant id deadline)
  simp only [Context.vacant] at hrelease hdiscard
  rcases s.server.trace_callWithin b "rollback" (.rollback c) h with ⟨_, hw⟩ | ⟨t, state, ha, hw⟩
  · obtain ⟨d, state', _, hd⟩ := s.server.trace_discard c h
    refine ⟨(h.afterTrip state' d).put (.vacant id deadline), ?_, .inl (Host.context_put rfl)⟩
    simp [rollback, rollbackOn, ho, Context.opened, Context.vacant, Handle.inTransaction, Handle.conn?,
      hb, hw, Outcome.attempted, hdiscard, hd]
  cases he : t.ending with
  | panic p =>
      refine ⟨h.afterTrip state t, ?_, .inr (.inr ⟨t, ?_, ha, p, he, ?_⟩)⟩
      · simp [rollback, rollbackOn, ho, Context.opened, Handle.inTransaction, Handle.conn?, hb, hw,
          RoundTrip.outcome, he, Ending.outcome, Outcome.attempted]
      · simp [rollbackOn, hb, hw, RoundTrip.outcome, he, Ending.outcome, Outcome.attempted]
      · simp [rollbackOn, hb, hw, RoundTrip.outcome, he, Ending.outcome, Outcome.attempted]
  | reply _ =>
      obtain ⟨r, state', _, hr⟩ := s.server.trace_call (.release c) (h.afterTrip state t)
      refine ⟨((h.afterTrip state t).afterTrip state' r).put (.vacant id deadline), ?_,
        .inl (Host.context_put rfl)⟩
      cases hre : r.ending <;>
        simp [rollback, rollbackOn, ho, Context.opened, Context.vacant, Handle.inTransaction,
          Handle.conn?, hb, hw, RoundTrip.outcome, he, Ending.outcome, Outcome.attempted, hrelease, hr,
          hre]
  | _ =>
      obtain ⟨d, state', _, hd⟩ := s.server.trace_discard c (h.afterTrip state t)
      refine ⟨((h.afterTrip state t).afterTrip state' d).put (.vacant id deadline), ?_,
        .inl (Host.context_put rfl)⟩
      simp [rollback, rollbackOn, ho, Context.opened, Context.vacant, Handle.inTransaction, Handle.conn?,
        hb, hw, RoundTrip.outcome, he, Ending.outcome, Outcome.attempted, hdiscard, hd]

theorem trace_rollback_of_open (hs : s.server.CalmRollback)
    (ho : h.context id = .opened id c (n + 1) deadline) :
    ∃ h', (s.rollback id).trace h =
      ⟨((s.rollbackOn c deadline).trace h).outcome, h', ((s.rollbackOn c deadline).trace h).trips⟩ ∧
      (h'.context id = .vacant id deadline ∨
        h' = h ∧ ((s.rollbackOn c deadline).trace h) = ⟨.panic clockFault, h, []⟩) := by
  obtain ⟨h', e, hvacant | ⟨_, hclock⟩ | ⟨t, _, ha, p, hp, _⟩⟩ := trace_rollback_cases (s := s) ho
  · exact ⟨h', e, .inl hvacant⟩
  · exact ⟨h', e, .inr hclock⟩
  · exact absurd hp (ha.ne_panic (hs _ _ p))

theorem trace_commit_of_closed (hl : (h.context id).level = 0) : (s.commit id).trace h =
    ⟨.failure (.transaction "commit called without a matching begin" id), h, []⟩ := by
  simp [commit, hl]

theorem trace_rollback_of_closed (hl : (h.context id).level = 0) :
    (s.rollback id).trace h = ⟨.value (), h, []⟩ := by
  simp [rollback, hl]

theorem trace_rollback_of_vacant (ho : h.context id = .vacant id deadline) :
    (s.rollback id).trace h = ⟨.value (), h, []⟩ :=
  trace_rollback_of_closed (by rw [ho]; rfl)

/-! ### Close -/

theorem trace_close_of_vacant (ho : h.context id = .vacant id deadline) :
    (s.close id).trace h = ⟨.value (), h, []⟩ := by
  simp [close, ho, Context.vacant, Handle.inTransaction, Handle.conn?]

theorem trace_close_of_open (ho : h.context id = .opened id c n deadline) : (s.close id).trace h =
    ⟨.failure (.transaction "cannot close a context with an open transaction" id), h, []⟩ := by
  simp [close, ho, Context.opened, Handle.inTransaction]

/-- A close makes one call, which hands back the connection of its context, and ends like that call. -/
theorem trace_close_of_idle (ho : h.context id = .idle id c deadline) : ∃ r h', r.call = .release c ∧
    h'.context id = .vacant id deadline ∧ (s.close id).trace h = ⟨r.ending.done, h', [r]⟩ := by
  obtain ⟨r, state, hr, hcall⟩ := s.server.trace_call (.release c) (h.put (.vacant id deadline))
  refine ⟨r, (h.put (.vacant id deadline)).afterTrip state r, hr.call_eq, Host.context_put rfl, ?_⟩
  simp only [Context.vacant] at hcall
  cases he : r.ending <;>
    simp [close, ho, Context.idle, Context.vacant, Handle.inTransaction, Handle.conn?, hcall, he,
      Ending.outcome, Ending.done]

end

/-! ### The end of a transaction -/

theorem trace_conclude_value (id : String) (a : α) (h : Host σ) :
    (s.conclude id (.value a)).trace h =
      ((s.commit id).trace h).andThen fun _ h => ⟨.value a, h, []⟩ := by
  simp [conclude]

theorem trace_conclude_failure (id : String) (f : Failure) (h : Host σ) :
    (s.conclude id (.failure f : Settled Unit)).trace h =
      ((s.rollback id).trace h).withOutcome (Outcome.passingFailure f) := by
  simp only [conclude, Act.trace_bind, Act.trace_attempt]
  rcases (s.rollback id).trace h with ⟨o, h', l⟩
  cases o <;> simp [Outcome.attempted, Outcome.passingFailure]

theorem trace_conclude_panic (id : String) (p : Payload) (h : Host σ) :
    (s.conclude id (.panic p : Settled Unit)).trace h =
      ((s.rollback id).trace h).withOutcome (Outcome.passingPanic p) := by
  simp only [conclude, Act.trace_bind, Act.trace_attempt, Act.trace_log, Trace.andThen_value,
    Trace.after_nil]
  rcases (s.rollback id).trace h with ⟨o, h', l⟩
  cases o <;> simp [Outcome.attempted, Outcome.passingPanic]

/-- A transaction with a fault never ends in a value. -/
theorem concludeOn_ne_value {ended : Settled Unit} (hf : ended.outcome.isFault = true) :
    ((s.concludeOn c deadline ended).trace h).outcome ≠ .value () := by
  cases ended with
  | value a => simp [Settled.outcome, Outcome.isFault] at hf
  | failure f =>
      rw [trace_concludeOn_failure]
      cases ho : ((s.rollbackOn c deadline).trace h).outcome <;>
        simp [Trace.withOutcome, ho, Outcome.passingFailure]
  | panic p =>
      rw [trace_concludeOn_panic]
      cases ho : ((s.rollbackOn c deadline).trace h).outcome <;>
        simp [Trace.withOutcome, ho, Outcome.passingPanic]

/-- Whether the end of one more enclosing transaction would change nothing. -/
def Resting (s : Service σ) (id : String) (h : Host σ) (o : Outcome Unit) : Prop :=
  ∀ ended : Settled Unit, o = ended.outcome →
    (s.conclude id ended).trace h = ⟨ended.outcome, h, []⟩

theorem Resting.conclude {o : Outcome Unit} {l : List RoundTrip} (hr : Resting s id h o) :
    ((⟨o, h, l⟩ : Trace σ Unit).withOutcome Outcome.settled).andThen
      (fun ended => (s.conclude id ended).trace) = ⟨o, h, l⟩ := by
  cases o with
  | value a => simp [Outcome.settled, hr (.value a) rfl, Settled.outcome]
  | failure f => simp [Outcome.settled, hr (.failure f) rfl, Settled.outcome]
  | panic p => simp [Outcome.settled, hr (.panic p) rfl, Settled.outcome]
  | hang => rfl

/-- After a fault the end of a transaction, at whatever level, makes the calls of the end of a flat one.
It leaves nothing in the context, unless the clock stops it before its first call; and the ends around it
change nothing any more. -/
theorem trace_conclude_of_fault {n : Nat} (hs : s.server.CalmRollback)
    (ho : h.context id = .opened id c (n + 1) deadline) (ended : Settled Unit)
    (hf : ended.outcome.isFault = true) :
    ∃ h', (s.conclude id ended).trace h =
      ⟨((s.concludeOn c deadline ended).trace h).outcome, h',
        ((s.concludeOn c deadline ended).trace h).trips⟩ ∧
      (h'.context id = .vacant id deadline ∨
        h' = h ∧ (s.concludeOn c deadline ended).trace h = ⟨.panic clockFault, h, []⟩) ∧
      Resting s id h' ((s.concludeOn c deadline ended).trace h).outcome := by
  obtain ⟨h', hr, hrest⟩ := trace_rollback_of_open hs ho
  have hfault : ((s.concludeOn c deadline ended).trace h).outcome ≠ .value () := concludeOn_ne_value hf
  have hstep : (s.conclude id ended).trace h = ⟨((s.concludeOn c deadline ended).trace h).outcome, h',
      ((s.concludeOn c deadline ended).trace h).trips⟩ := by
    cases ended with
    | value a => simp [Settled.outcome, Outcome.isFault] at hf
    | failure f => rw [trace_conclude_failure, trace_concludeOn_failure, hr]; rfl
    | panic p => rw [trace_conclude_panic, trace_concludeOn_panic, hr]; rfl
  rcases hrest with hvacant | ⟨rfl, hclock⟩
  · -- the context is detached: rolling back is of no effect
    refine ⟨h', hstep, .inl hvacant, fun again hagain => ?_⟩
    have hnone := trace_rollback_of_vacant (s := s) hvacant
    cases again with
    | value a => exact absurd hagain hfault
    | failure g => rw [trace_conclude_failure, hnone]; rfl
    | panic q => rw [trace_conclude_panic, hnone]; rfl
  · -- the clock has stopped the rollback, and stops the next one too
    have hend : (s.concludeOn c deadline ended).trace h' = ⟨.panic clockFault, h', []⟩ := by
      cases ended with
      | value a => simp [Settled.outcome, Outcome.isFault] at hf
      | failure f => rw [trace_concludeOn_failure, hclock]; rfl
      | panic p => rw [trace_concludeOn_panic, hclock]; rfl
    refine ⟨h', hstep, .inr ⟨rfl, hend⟩, fun again hagain => ?_⟩
    rw [hend] at hagain
    rw [hclock] at hr
    cases again with
    | value a => simp [Settled.outcome] at hagain
    | failure g => simp [Settled.outcome] at hagain
    | panic q =>
        simp only [Settled.outcome, Outcome.panic.injEq] at hagain
        subst hagain
        rw [trace_conclude_panic, hr]
        rfl

/-- What the end of a transaction leaves after a fault is no more than what its calls have not ended. -/
theorem trace_conclude_of_open {n : Nat} (hs : s.server.CalmRollback)
    (ho : h.context id = .opened id c (n + 1) deadline) (ended : Settled Unit)
    (hf : ended.outcome.isFault = true) :
    ∃ h', (s.conclude id ended).trace h =
      ⟨((s.concludeOn c deadline ended).trace h).outcome, h',
        ((s.concludeOn c deadline ended).trace h).trips⟩ ∧
      Closing id c deadline ((s.concludeOn c deadline ended).trace h) h' ∧
      Resting s id h' ((s.concludeOn c deadline ended).trace h).outcome := by
  obtain ⟨h', hstep, hleft, hrest⟩ := trace_conclude_of_fault hs ho ended hf
  refine ⟨h', hstep, ?_, hrest⟩
  rcases hleft with hvacant | ⟨rfl, hend⟩
  · exact .inl hvacant
  · exact .inr ⟨⟨n, ho⟩, concludeOn_ne_value hf, by simp [hend]⟩

theorem trace_conclude_of_outer (hs : s.server.CalmRollback)
    (ho : h.context id = .opened id c 1 deadline) : ∀ ended : Settled Unit,
    ∃ h', (s.conclude id ended).trace h = ⟨((s.concludeOn c deadline ended).trace h).outcome, h',
        ((s.concludeOn c deadline ended).trace h).trips⟩ ∧
      Closing id c deadline ((s.concludeOn c deadline ended).trace h) h'
  | .value a => by
      obtain ⟨h', hcommit, hclose⟩ := trace_commit_of_outer (s := s) ho
      refine ⟨h', ?_, hclose⟩
      rw [trace_conclude_value, hcommit]
      exact Trace.andThen_pure _
  | .failure f => by
      obtain ⟨h', hcon, hclose, _⟩ := trace_conclude_of_open hs ho (.failure f) rfl
      exact ⟨h', hcon, hclose⟩
  | .panic p => by
      obtain ⟨h', hcon, hclose, _⟩ := trace_conclude_of_open hs ho (.panic p) rfl
      exact ⟨h', hcon, hclose⟩

end Service

end SqlSession
