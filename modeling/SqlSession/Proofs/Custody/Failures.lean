import SqlSession.Proofs.Custody.Panic

/-! # What failures leave of a context

An operation that fails leaves its context as it was, and keeps nothing of what it has acquired
(`Run.Spares`); or it has given the connection of its context away, once, and left the context detached
(`Run.Consumes`).  `failures_spare_contexts` says which of the two it is.  A failed begin spares its
context with one exception: when the clock cannot hold the end of its write timeout, the panic of that is
caught like that of a call, and the connection that the context held is discarded
(`unholdable_begin_discards`). -/

namespace SqlSession

/-- Whether no call of a run has panicked. -/
def Run.Calm (r : Run σ α) : Prop := ∀ t ∈ r.trips, ∀ p, t.ending ≠ .panic p

/-- A run leaves a context, and has released or discarded once every connection that it has acquired and
the one that is `gone`. -/
structure Run.Leaves (id : String) (left : Context) (gone : Option ConnId) (h : Host σ) (r : Run σ α) :
    Prop where
  context_eq : r.host.context id = left
  others_eq : ∀ other, other ≠ id → r.host.context other = h.context other
  dropped_eq : Journal.dropped r.journal = []
  passed : ∀ c, (Journal.released r.journal).count c + (Journal.discarded r.journal).count c =
    if gone = some c ∨ h.handedOut < c ∧ c ≤ r.host.handedOut then 1 else 0

/-- A run leaves a context as it was. -/
def Run.Spares (id : String) (h : Host σ) (r : Run σ α) : Prop := r.Leaves id (h.context id) none h

/-- A run gives the connection of a context away, and leaves the context detached under its deadline. -/
structure Run.Consumes (id : String) (c : ConnId) (h : Host σ) (r : Run σ α) : Prop where
  held : (h.context id).handle.conn? = some c
  leaves : r.Leaves id (.vacant id (h.context id).deadline) (some c) h

theorem RoundTrip.succeeded_of_done_failure {t : RoundTrip} {f : Failure}
    (he : t.ending.done = .failure f) : t.succeeded = false := by
  cases hend : t.ending <;> simp [hend, Ending.done, RoundTrip.succeeded] at he ⊢

namespace Service

variable {s : Service σ} {id : String} {h : Host σ} {j : List Entry}

/-! ### Where the connections are -/

theorem le_handedOut_of_held {drops : Prop} (hk : Kept drops h j) {c : ConnId}
    (hc : (h.context id).handle.conn? = some c) : c ≤ h.handedOut := by
  obtain ⟨rest, hfront, -⟩ := Custody.focus id h.contexts
  exact Nat.not_lt.mp (((hfront []).mp hk.custody).elsewhere hc).1

theorem KeepsOn.leaves {x : Act σ α} (hx : KeepsOn True id x) (hk : Kept True h j)
    (hdrop : Journal.dropped (x h).journal = []) {left : Context} {gone : Option ConnId}
    (hleft : (x h).host.context id = left)
    (hgone : left.handle.conn? = (h.context id).handle.conn? ∧ gone = none ∨
      left.handle.conn? = none ∧ gone = (h.context id).handle.conn?) :
    (x h).Leaves id left gone h := by
  obtain ⟨hd, hm, hkeep⟩ := hx h (hk.sound id)
  obtain rfl : left.handle = hd := by rw [← hkeep.handle_eq, hleft]
  refine ⟨hleft, fun other hne => ?_, hdrop, fun c => ?_⟩
  · rcases hkeep.aside with e | ⟨y, hy, e⟩
    · rw [Host.context, e]
      rfl
    · rw [Host.context, e, Context.find_putInto_of_ne (by rw [hy]; exact hne.symm)]
      rfl
  · have hcount := hm.count_eq (fun c => le_handedOut_of_held hk) c
    rw [hdrop, List.count_nil, Nat.add_zero, ConnId.count_toList] at hcount
    rcases hgone with ⟨hsame, rfl⟩ | ⟨hnone, rfl⟩
    · rw [hsame] at hcount
      by_cases hc : (h.context id).handle.conn? = some c
      · have hold : ¬ h.handedOut < c := Nat.not_lt.mpr (le_handedOut_of_held hk hc)
        rw [if_pos hc, if_pos (.inl hc)] at hcount
        rw [if_neg (by simp [hold])]
        omega
      · simp only [hc, if_false, false_or, Nat.zero_add] at hcount
        simpa using hcount
    · simpa [hnone] using hcount

theorem KeepsOn.spares {x : Act σ α} (hx : KeepsOn True id x) (hk : Kept True h j)
    (hdrop : Journal.dropped (x h).journal = []) (hleft : (x h).host.context id = h.context id) :
    (x h).Spares id h :=
  hx.leaves hk hdrop hleft (.inl ⟨rfl, rfl⟩)

theorem KeepsOn.consumes {x : Act σ α} (hx : KeepsOn True id x) (hk : Kept True h j)
    (hdrop : Journal.dropped (x h).journal = []) {c : ConnId} {deadline : Option Instant}
    (hheld : (h.context id).handle.conn? = some c) (hdeadline : (h.context id).deadline = deadline)
    (hleft : (x h).host.context id = .vacant id deadline) : (x h).Consumes id c h := by
  subst hdeadline
  exact ⟨hheld, hx.leaves hk hdrop hleft (.inr ⟨rfl, hheld.symm⟩)⟩

theorem KeepsOn.dropped_eq_nil {x : Act σ α} (hx : KeepsOn False id x)
    (hs : (h.context id).Sound) : Journal.dropped (x h).journal = [] := by
  obtain ⟨_, hm, -⟩ := hx h hs
  exact hm.dropped_eq_nil not_false

/-! ### Begin -/

theorem journal_begin (h : Host σ) : ∃ rest, Journal.dropped rest = [] ∧
    (s.begin id h).journal = (s.beginUnguarded id h).journal ++ rest := by
  obtain ⟨hend, hnone, -⟩ := s.discardUnknown_succeeds id (s.beginUnguarded id h).host
  have hsamples := dropped_samples
  simp only [begin, observe, Bind.bind, Act.bind, Act.settle]
  cases ho : (s.beginUnguarded id h).outcome with
  | panic p =>
      simp only [Act.bind, Act.log, Act.write, hend, Act.fail, List.append_assoc]
      refine ⟨_, ?_, rfl⟩
      simp only [Journal.dropped, List.filterMap_append] at hnone hsamples ⊢
      simp [hnone, hsamples, Entry.dropped?]
  | hang => exact ⟨_, hsamples _, rfl⟩
  | value a =>
      simp only [Pure.pure, Act.pure, List.append_nil]
      exact ⟨_, hsamples _, rfl⟩
  | failure f =>
      simp only [Act.fail, List.append_nil]
      exact ⟨_, hsamples _, rfl⟩

theorem dropped_begin (hcalm : (s.begin id h).Calm) : Journal.dropped (s.begin id h).journal = [] := by
  obtain ⟨rest, hrest, e⟩ : ∃ rest, Journal.dropped rest = [] ∧
      (s.begin id h).journal = (s.beginUnguarded id h).journal ++ rest := journal_begin h
  have hun : Journal.dropped (s.beginUnguarded id h).journal = [] := by
    refine (breaks_beginUnguarded h).calm fun t ht => hcalm t ?_
    rw [Run.trips, e, List.filterMap_append]
    exact List.mem_append_left _ ht
  rw [e, Journal.dropped, List.filterMap_append]
  exact List.append_eq_nil_iff.mpr ⟨hun, hrest⟩

theorem trace_begin_of_idle {c : ConnId} {deadline : Option Instant}
    (ho : h.context id = .idle id c deadline) :
    (clockLimit ≤ h.now + s.settings.writeSecs * 1000 ∧ ∃ f h' d, d.call = .discard c ∧
      h'.context id = .vacant id deadline ∧ (s.begin id).trace h = ⟨.failure f, h', [d]⟩) ∨
    (∃ h' t, (s.begin id).trace h = ⟨.value (), h', [t]⟩) ∨
    (∃ f h' l, h'.context id = .idle id c deadline ∧ (s.begin id).trace h = ⟨.failure f, h', l⟩) ∨
    ∃ t ∈ ((s.begin id).trace h).trips, ∃ p, t.ending = .panic p := by
  have hun := trace_beginUnguarded_of_idle (s := s) ho
  rcases trace_budget deadline s.settings.writeSecs h with ⟨hc, -⟩ | ⟨b, hb⟩
  · obtain ⟨h', d, hcall, hvacant, hd⟩ := trace_discardUnknown (s := s) ho
    rw [trace_startTransaction_of_not_holds false (Int.not_lt.mpr hc)] at hun
    exact .inl ⟨hc, _, h', d, hcall, hvacant, trace_begin_of_panic hun hd⟩
  have hfailed {f : Failure} {h' : Host σ} {l : List RoundTrip} (hleft : h'.context id = h.context id)
      (hw : (s.server.callWithin b "begin" (.begin c)).trace h = ⟨.failure f, h', l⟩) :
      ∃ f h' l, h'.context id = .idle id c deadline ∧ (s.begin id).trace h = ⟨.failure f, h', l⟩ := by
    refine ⟨f, h', l, hleft.trans ho, trace_begin_of_failure (hun.trans ?_)⟩
    simp [startTransaction, Context.idle, Handle.conn?, hb, hw, Outcome.attempted]
  rcases s.server.trace_callWithin b "begin" (.begin c) h with ⟨_, hw⟩ | ⟨t, state, -, hw⟩
  · exact .inr (.inr (.inl (hfailed rfl hw)))
  rcases t.outcome_cases b "begin" with ⟨_, r, e⟩ | ⟨_, f, e⟩ | ⟨_, p, hp, e⟩ <;> rw [e] at hw
  · refine .inr (.inl ⟨(h.afterTrip state t).put (.opened id c 1 deadline), t, ?_⟩)
    simp only [Context.idle] at hun
    simp [begin, hun, startTransaction, Handle.conn?, hb, hw, Outcome.attempted, Outcome.settled,
      Context.opened]
  · exact .inr (.inr (.inl (hfailed (h.context_afterTrip state t id) hw)))
  · refine .inr (.inr (.inr ⟨t, ?_, p, hp⟩))
    simp only [Context.idle] at hun
    simp [begin, hun, startTransaction, Handle.conn?, hb, hw, Outcome.attempted, Outcome.settled]

/-- **A failed begin** spares its context, unless the clock cannot hold the end of its timeout. -/
theorem begin_fails (hk : Kept True h j) (hcalm : (s.begin id h).Calm) {f : Failure}
    (ho : (s.begin id h).outcome = .failure f) :
    (s.begin id h).Spares id h ∨ clockLimit ≤ h.now + s.settings.writeSecs * 1000 ∧
      ∃ c d, (h.context id).handle = .connection c ∧ (s.begin id h).trips = [d] ∧ d.call = .discard c ∧
        (s.begin id h).Consumes id c h := by
  have hkeeps : KeepsOn True id (s.begin id) := keeps_begin fun _ => trivial
  have hdrop := dropped_begin hcalm
  obtain ⟨deadline, hx | ⟨c, hx⟩ | ⟨c, n, hx⟩⟩ := Host.context_cases (hk.sound id)
  · rcases begin_of_vacant (s := s) hx with ⟨_, _, _, _, _, _, _, e⟩ | ⟨_, hleft⟩
    · exact nomatch ho.symm.trans (Act.run_of_trace e).1
    · exact .inl (hkeeps.spares hk hdrop (hleft.trans hx.symm))
  · rcases trace_begin_of_idle (s := s) hx with
      ⟨hc, f, h', d, hd, hleft, e⟩ | ⟨h', t, e⟩ | ⟨f, h', l, hleft, e⟩ | ⟨t, ht, p, hp⟩
    · rw [← (Act.run_of_trace e).2.1] at hleft
      exact .inr ⟨hc, c, d, by rw [hx]; rfl, (Act.run_of_trace e).2.2, hd,
        hkeeps.consumes hk hdrop (by rw [hx]; rfl) (by rw [hx]; rfl) hleft⟩
    · exact nomatch ho.symm.trans (Act.run_of_trace e).1
    · rw [← (Act.run_of_trace e).2.1] at hleft
      exact .inl (hkeeps.spares hk hdrop (hleft.trans hx.symm))
    · exact absurd hp (hcalm t ht p)
  · exact nomatch ho.symm.trans (Act.run_of_trace (trace_begin_of_open hx)).1

/-! ### Commit, rollback and close -/

/-- **A failed commit** spares its context, unless the server has committed and the release has failed. -/
theorem commit_fails (hk : Kept True h j) {f : Failure} (ho : (s.commit id h).outcome = .failure f) :
    (s.commit id h).Spares id h ∧ (∀ t ∈ (s.commit id h).trips, t.succeeded = false) ∨
    ∃ c t r, (s.commit id h).trips = [t, r] ∧ t.call = .commit c ∧ t.succeeded = true ∧
      r.call = .release c ∧ r.succeeded = false ∧ (s.commit id h).Consumes id c h := by
  have hkeeps : KeepsOn True id (s.commit id) := keeps_commit
  have hdrop : Journal.dropped (s.commit id h).journal = [] := keeps_commit.dropped_eq_nil (hk.sound id)
  have hclosed (hl : (h.context id).level = 0) : (s.commit id h).Spares id h ∧
      ∀ t ∈ (s.commit id h).trips, t.succeeded = false := by
    obtain ⟨_, hhost, htrips⟩ := Act.run_of_trace (trace_commit_of_closed (s := s) hl)
    exact ⟨hkeeps.spares hk hdrop (by rw [hhost]), by rw [htrips]; exact List.forall_mem_nil _⟩
  obtain ⟨deadline, hx | ⟨c, hx⟩ | ⟨c, n, hx⟩⟩ := Host.context_cases (hk.sound id)
  · exact .inl (hclosed (by rw [hx]; rfl))
  · exact .inl (hclosed (by rw [hx]; rfl))
  cases n with
  | succ n => exact nomatch ho.symm.trans (Act.run_of_trace (trace_commit_of_nested hx)).1
  | zero =>
      obtain ⟨h', e, hleft⟩ := trace_commit_cases (s := s) hx
      obtain ⟨houtcome, hhost, htrips⟩ := Act.run_of_trace e
      rw [← hhost, ← houtcome, ← htrips] at hleft
      rcases hleft with ⟨hvacant, t, r, ht, hts, hr, htr, hend⟩ | ⟨hopen, _, hnone⟩
      · have hrs : r.succeeded = false := RoundTrip.succeeded_of_done_failure (hend.symm.trans ho)
        exact .inr ⟨c, t, r, htr, ht, hts, hr, hrs,
          hkeeps.consumes hk hdrop (by rw [hx]; rfl) (by rw [hx]; rfl) hvacant⟩
      · exact .inl ⟨hkeeps.spares hk hdrop (hopen.trans hx.symm), hnone⟩

/-- **A rollback of an open transaction** consumes the connection, however it ends, unless the clock stops
it before its call. -/
theorem rollback_consumes (hk : Kept True h j) (hl : 0 < (h.context id).level)
    (hcalm : (s.rollback id h).Calm) :
    (∃ c, (s.rollback id h).Consumes id c h ∧
      RollingBack s c (h.context id).deadline h.now (s.rollback id h).trips (s.rollback id h).outcome) ∨
    clockLimit ≤ h.now + s.settings.writeSecs * 1000 ∧
      (s.rollback id h).outcome = .panic clockFault ∧ (s.rollback id h).Spares id h := by
  have hkeeps : KeepsOn True id (s.rollback id) := keeps_rollback
  have hdrop : Journal.dropped (s.rollback id h).journal = [] :=
    keeps_rollback.dropped_eq_nil (hk.sound id)
  obtain ⟨c, n, deadline, hx⟩ := Host.exists_opened (hk.sound id) (Nat.ne_of_gt hl)
  obtain ⟨h', e, hleft⟩ := trace_rollback_cases (s := s) hx
  obtain ⟨houtcome, hhost, htrips⟩ := Act.run_of_trace e
  have hshape := s.rollbackOn_cases c deadline h
  rw [← houtcome, ← htrips] at hshape
  rcases hleft with hvacant | ⟨hc, hsame, hclock⟩ | ⟨t, ht, -, p, hp, -⟩
  · rw [← hhost] at hvacant
    have hroll := hshape.resolve_right fun ⟨t, ht, _, p, hp, _⟩ => hcalm t ht p hp
    have hdeadline : (h.context id).deadline = deadline := by rw [hx]; rfl
    rw [hdeadline]
    exact .inl ⟨c, hkeeps.consumes hk hdrop (by rw [hx]; rfl) hdeadline hvacant, hroll⟩
  · exact .inr ⟨hc, by rw [houtcome, hclock], hkeeps.spares hk hdrop (by rw [hhost, hsame])⟩
  · rw [← htrips] at ht
    exact absurd hp (hcalm t ht p)

/-- **A failed close** has been refused because of a transaction, or its release has failed. -/
theorem close_fails (hk : Kept True h j) {f : Failure} (ho : (s.close id h).outcome = .failure f) :
    (h.context id).handle.inTransaction = true ∧ (s.close id h).trips = [] ∧
      (s.close id h).Spares id h ∨
    ∃ c r, (s.close id h).trips = [r] ∧ r.call = .release c ∧ r.succeeded = false ∧
      (s.close id h).Consumes id c h := by
  have hkeeps : KeepsOn True id (s.close id) := keeps_close
  have hdrop : Journal.dropped (s.close id h).journal = [] := keeps_close.dropped_eq_nil (hk.sound id)
  obtain ⟨deadline, hx | ⟨c, hx⟩ | ⟨c, n, hx⟩⟩ := Host.context_cases (hk.sound id)
  · rw [(Act.run_of_trace (trace_close_of_vacant hx)).1] at ho
    cases ho
  · obtain ⟨r, h', hr, hvacant, e⟩ := trace_close_of_idle (s := s) hx
    obtain ⟨houtcome, hhost, htrips⟩ := Act.run_of_trace e
    rw [← hhost] at hvacant
    have hrs : r.succeeded = false := RoundTrip.succeeded_of_done_failure (houtcome.symm.trans ho)
    exact .inr ⟨c, r, htrips, hr, hrs,
      hkeeps.consumes hk hdrop (by rw [hx]; rfl) (by rw [hx]; rfl) hvacant⟩
  · obtain ⟨_, hhost, htrips⟩ := Act.run_of_trace (trace_close_of_open (s := s) hx)
    exact .inl ⟨by rw [hx]; rfl, htrips, hkeeps.spares hk hdrop (by rw [hhost])⟩

/-! ### Operations that keep all contexts -/

theorem contexts_perform (e : Errand) (h : Host σ) :
    (s.perform id e h).host.contexts = h.contexts :=
  (congrArg (fun t : Trace σ Unit => t.host.contexts) (trace_perform_at rfl e)).trans
    ((s.aloof_runAt _ _ e).contexts_eq h)

theorem contexts_testConnection (h : Host σ) : (s.testConnection id h).host.contexts = h.contexts := by
  let ping (call : Call) : Act σ Unit := do
    let b ← budget (h.context id).deadline s.settings.connectSecs
    let _ ← s.server.callWithin b "ping" call
  have haloof (call : Call) : (ping call).Aloof :=
    .bind (.budget _ _) fun _ => .bind (.callWithin _ _ _ call) fun _ => .pure ()
  obtain ⟨call, e⟩ : ∃ call, (s.testConnection id).trace h = (ping call).trace h :=
    ⟨_, (congrFun (s.trace_observe _ _) h).trans (Act.trace_context_bind id _ h)⟩
  exact (congrArg (fun t : Trace σ Unit => t.host.contexts) e).trans ((haloof call).contexts_eq h)

theorem contexts_connection {f : Failure} (ho : (s.connection id h).outcome = .failure f) :
    (s.connection id h).host.contexts = h.contexts := by
  let acquire : Act σ ConnId := do
    let c ← s.acquireVerified none
    Act.log (.connectionAcquired id)
    return c
  have haloof : acquire.Aloof :=
    .bind (s.aloof_acquireVerified none) fun c => .bind (.log _) fun _ => .pure c
  by_cases hv : ∃ c, (s.observe "connection" acquire h).outcome = .value c
  · obtain ⟨c, hv⟩ := hv
    have hdone : (s.connection id h).outcome = .value () := by
      rw [connection, Act.bind_of_value hv]
      exact s.replaceContext_outcome _ _
    exact nomatch ho.symm.trans hdone
  · have hstop := fun c hc => hv ⟨c, hc⟩
    rw [connection, (Act.bind_of_stop hstop).1]
    exact haloof.contexts_eq h

end Service

/-- **Failures spare contexts.**  In every session, without a panic of the server: a begin that fails
leaves its context as it was, and has released or discarded once whatever it has acquired; so do a commit
that fails before the server has committed, and a close that is refused because of a transaction.  What is
left are a failed release and a failed rollback: they leave the context detached under its deadline, and
its connection has been given away once, as it is by every rollback of an open transaction.  Statements,
pings and attempts at a new context leave all contexts as they are.  There is one exception: a write
timeout whose end the clock cannot hold makes a begin discard the connection that its context held, and do
nothing else. -/
theorem failures_spare_contexts {s : Service σ} {state : σ} {now : Instant} {j : List Entry} {h : Host σ}
    (hs : Session s (fun _ _ => True) (.fresh state now) j h) (id : String) :
    (∀ f, (s.begin id h).Calm → (s.begin id h).outcome = .failure f →
      (s.begin id h).Spares id h ∨
      Service.clockLimit ≤ h.now + s.settings.writeSecs * 1000 ∧
        ∃ c d, (h.context id).handle = .connection c ∧ (s.begin id h).trips = [d] ∧
          d.call = .discard c ∧ (s.begin id h).Consumes id c h) ∧
    (∀ f, (s.commit id h).outcome = .failure f →
      (s.commit id h).Spares id h ∧ (∀ t ∈ (s.commit id h).trips, t.succeeded = false) ∨
      ∃ c t r, (s.commit id h).trips = [t, r] ∧ t.call = .commit c ∧ t.succeeded = true ∧
        r.call = .release c ∧ r.succeeded = false ∧ (s.commit id h).Consumes id c h) ∧
    (∀ f, (s.close id h).outcome = .failure f →
      (h.context id).handle.inTransaction = true ∧ (s.close id h).trips = [] ∧
        (s.close id h).Spares id h ∨
      ∃ c r, (s.close id h).trips = [r] ∧ r.call = .release c ∧ r.succeeded = false ∧
        (s.close id h).Consumes id c h) ∧
    (0 < (h.context id).level → (s.rollback id h).Calm →
      (∃ c, (s.rollback id h).Consumes id c h ∧
        RollingBack s c (h.context id).deadline h.now (s.rollback id h).trips
          (s.rollback id h).outcome) ∨
      Service.clockLimit ≤ h.now + s.settings.writeSecs * 1000 ∧
        (s.rollback id h).outcome = .panic clockFault ∧ (s.rollback id h).Spares id h) ∧
    ((h.context id).level = 0 →
      (s.rollback id h).outcome = .value () ∧ (s.rollback id h).host = h ∧ (s.rollback id h).trips = []) ∧
    (∀ e, (s.perform id e h).host.contexts = h.contexts) ∧
    (s.testConnection id h).host.contexts = h.contexts ∧
    ∀ f, (s.connection id h).outcome = .failure f →
      (s.connection id h).host.contexts = h.contexts := by
  have hk : Kept True h j := hs.kept True (fun _ => trivial) fun _ _ _ _ => trivial
  exact ⟨fun _ hcalm ho => Service.begin_fails hk hcalm ho, fun _ ho => Service.commit_fails hk ho,
    fun _ ho => Service.close_fails hk ho, fun hl hcalm => Service.rollback_consumes hk hl hcalm,
    fun hl => Act.run_of_trace (Service.trace_rollback_of_closed hl),
    fun e => Service.contexts_perform e h, Service.contexts_testConnection h,
    fun _ ho => Service.contexts_connection ho⟩

/-- A service whose server takes no connection back. -/
def Service.stuckRelease : Service Unit := .plain fun
  | .release _ => .failure (.internal "stuck")
  | _ => .reply .done

/-- A commit fails after the server has committed, and a close before that. -/
theorem failures_spare_contexts_stuckRelease : ∃ j h,
    Session Service.stuckRelease (fun _ _ => True) (.fresh () 0) j h ∧
    h.context "a" = .opened "a" 1 1 none ∧
    (Service.stuckRelease.commit "a" h).outcome = .failure (.internal "stuck") ∧
    (∃ c t r, (Service.stuckRelease.commit "a" h).trips = [t, r] ∧ t.call = .commit c ∧
      t.succeeded = true ∧ r.call = .release c ∧ r.succeeded = false ∧
      (Service.stuckRelease.commit "a" h).Consumes "a" c h) ∧
    (Service.stuckRelease.close "a" h).outcome =
      .failure (.transaction "cannot close a context with an open transaction" "a") ∧
    (Service.stuckRelease.close "a" h).Spares "a" h := by
  have hs : Session Service.stuckRelease (fun _ _ => True) (.fresh () 0) [] (.fresh () 0) := .start
  have hbegun := hs.operation (.begin "a") trivial
  obtain ⟨-, hcommit, hclose, -⟩ := failures_spare_contexts hbegun "a"
  refine ⟨_, _, hbegun, by decide +kernel, by decide +kernel, ?_, by decide +kernel, ?_⟩
  · refine (hcommit (.internal "stuck") (by decide +kernel)).resolve_left fun ⟨_, hnone⟩ => ?_
    exact absurd (hnone ⟨.commit 1, 0, 0, .reply .done⟩ List.mem_cons_self) (by decide)
  · rcases hclose (.transaction "cannot close a context with an open transaction" "a")
      (by decide +kernel) with ⟨-, -, hspared⟩ | ⟨_, r, htrips, -⟩
    · exact hspared
    · exact nomatch htrips

/-- A begin that fails without any trouble with the server discards the connection that its context
held. -/
theorem unholdable_begin_discards : ∃ j h,
    Session Service.unholdable (fun _ _ => True) (.fresh () 0) j h ∧
    h.context "a" = .idle "a" 1 none ∧
    let run := Service.unholdable.begin "a" h
    run.Calm ∧ (∃ f, run.outcome = .failure f) ∧
    run.host.context "a" = .vacant "a" none ∧ Journal.discarded run.journal = [1] := by
  have hs : Session Service.unholdable (fun _ _ => True) (.fresh () 0) [] (.fresh () 0) := .start
  refine ⟨_, _, hs.operation (.connection "a") trivial, by decide +kernel, ?_, ⟨_, rfl⟩,
    by decide +kernel, by decide +kernel⟩
  intro t ht p
  obtain rfl := List.mem_singleton.mp ht
  exact nofun

end SqlSession
