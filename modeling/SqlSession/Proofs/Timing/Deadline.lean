import SqlSession.Proofs.Custody.Session
import SqlSession.Proofs.Timing.Inquiry
import SqlSession.Proofs.Transaction.Open

/-! # Deadlines

A call through a context has to end by the deadline of the context and within the timeout of its kind.
`Timed` says so of the bounded calls of an act: each has a budget of its own, except that the two calls of
an attempt at a connection share one.  Every operation of a service heeds the deadline of its context in
this way and leaves all deadlines as they are (`heeds_act`), so that in a run of operations the deadlines
hold to its end (`deadlines_bound_round_trips`). -/

namespace SqlSession

/-- The deadline of the context of an id. -/
def Host.deadlineOf (h : Host σ) (id : String) : Option Instant := (h.context id).deadline

theorem Host.deadlineOf_put {h : Host σ} {c : Context} (hc : c.deadline = h.deadlineOf c.id) :
    (h.put c).deadlineOf = h.deadlineOf := by
  funext id
  by_cases hid : c.id = id
  · rw [deadlineOf, context_put hid, hc, hid]
  · simp only [deadlineOf, put, context, Context.find_putInto_of_ne hid]

theorem Act.Aloof.deadlineOf_eq {x : Act σ α} (hx : x.Aloof) (h : Host σ) :
    (x h).host.deadlineOf = h.deadlineOf :=
  funext fun id => congrArg Context.deadline (hx.context_eq h id)

/-! ### Budgets -/

/-- The budget of a call that may take some seconds from an instant on. -/
def Service.budgetAt (deadline : Option Instant) (secs : Nat) (now : Instant) : Budget :=
  ⟨deadline.elim (now + secs * 1000) fun d => min d (now + secs * 1000), min secs secsLimit⟩

theorem Service.budget_eq (deadline : Option Instant) (secs : Nat) (h : Host σ) :
    (budget deadline secs : Act σ Budget) h = ⟨.panic clockFault, h, []⟩ ∨
    (budget deadline secs : Act σ Budget) h = ⟨.value (budgetAt deadline secs h.now), h, []⟩ := by
  rcases budget_cases deadline secs h with ⟨_, e⟩ | ⟨_, ⟨_, _⟩, rfl, rfl, e⟩
  · exact .inl e
  · exact .inr e

theorem Service.budgetAt_deadline_le (deadline : Option Instant) (secs : Nat) (now : Instant) :
    (budgetAt deadline secs now).deadline ≤ now + secs * 1000 ∧
    ∀ d, deadline = some d → (budgetAt deadline secs now).deadline ≤ d := by
  cases deadline with
  | none => exact ⟨Int.le_refl _, nofun⟩
  | some d => exact ⟨Int.min_le_right d _, fun _ he => Option.some.inj he ▸ Int.min_le_left d _⟩

namespace Inquiry

/-- Whether a call has the budget of its kind from an instant on, and times out under its own name. -/
def Budgeted (s : Service σ) (D : Option Instant) (start : Instant) (i : Inquiry) : Prop :=
  i.operation = i.call.operation ∧
    ∃ secs, s.timeout? i.call = some secs ∧ i.budget = Service.budgetAt D secs start

end Inquiry

/-- Bounded calls under a deadline. -/
inductive Timed (s : Service σ) (D : Option Instant) : List Inquiry → Prop
  | nil : Timed s D []
  /-- A call with a budget of its own; an acquire has one only if it gives no connection. -/
  | single {i : Inquiry} {l : List Inquiry} (hi : i.Budgeted s D i.asked)
      (ha : i.call = .acquire → ∀ r, i.yielded ≠ .value r) (hl : Timed s D l) : Timed s D (i :: l)
  /-- A connection is acquired, and pinged at once with what is left of the same budget. -/
  | attempt {i k : Inquiry} {r : Reply} {t : RoundTrip} {c : ConnId} {l : List Inquiry}
      (hi : i.Budgeted s D i.asked) (ha : i.call = .acquire) (hy : i.yielded = .value r)
      (ht : i.trip? = some t) (hk : k.Budgeted s D i.asked) (hp : k.call = .ping c)
      (hleft : k.asked = t.left) (hl : Timed s D l) : Timed s D (i :: k :: l)

namespace Timed

variable {s : Service σ} {D : Option Instant} {l m : List Inquiry}

theorem append (hl : Timed s D l) (hm : Timed s D m) : Timed s D (l ++ m) := by
  induction hl with
  | nil => exact hm
  | single hi ha _ ih => exact .single hi ha ih
  | attempt hi ha hy ht hk hp hleft _ ih => exact .attempt hi ha hy ht hk hp hleft ih

/-- The budget of a call has started when the call is asked for, or before. -/
theorem budgeted (hl : Timed s D l) (hlaw : ∀ i ∈ l, i.Lawful) :
    ∀ i ∈ l, ∃ start, start ≤ i.asked ∧ i.Budgeted s D start := by
  induction hl with
  | nil => exact List.forall_mem_nil _
  | @single i l hi _ _ ih =>
      have ⟨_, hrest⟩ := List.forall_mem_cons.mp hlaw
      exact List.forall_mem_cons.mpr ⟨⟨i.asked, Int.le_refl _, hi⟩, ih hrest⟩
  | @attempt i k _ t _ l hi _ _ ht hk _ hleft _ ih =>
      have ⟨hone, hrest⟩ := List.forall_mem_cons.mp hlaw
      have ⟨_, hrest⟩ := List.forall_mem_cons.mp hrest
      have hle : i.asked ≤ k.asked := hleft ▸ (hone.asked_le ht).2
      exact List.forall_mem_cons.mpr ⟨⟨i.asked, Int.le_refl _, hi⟩,
        List.forall_mem_cons.mpr ⟨⟨i.asked, hle, hk⟩, ih hrest⟩⟩

/-- A round trip takes no longer than its kind may; it is made before the deadline and left by then. -/
theorem within (hl : Timed s D l) (hlaw : ∀ i ∈ l, i.Lawful) {t : RoundTrip}
    (ht : t ∈ l.filterMap Inquiry.trip?) : ∃ secs, s.timeout? t.call = some secs ∧
      t.left ≤ t.started + secs * 1000 ∧ ∀ d, D = some d → t.started < d ∧ t.left ≤ d := by
  obtain ⟨i, hi, htrip⟩ := List.mem_filterMap.mp ht
  obtain ⟨start, hstart, _, secs, hsecs, hb⟩ := hl.budgeted hlaw i hi
  obtain ⟨hcall, hbefore, hby⟩ := (hlaw i hi).within htrip
  obtain ⟨hle, hled⟩ := Service.budgetAt_deadline_le D secs start
  rw [← hb] at hle hled
  have hasked := ((hlaw i hi).asked_le htrip).1
  refine ⟨secs, by rw [hcall, hsecs], ?_, fun d hd => ⟨?_, Int.le_trans hby (hled d hd)⟩⟩
  · rw [hasked]
    exact Int.le_trans hby (Int.le_trans hle (Int.add_le_add_right hstart _))
  · exact Int.lt_of_lt_of_le hbefore (hled d hd)

end Timed

/-! ### Acts that heed a deadline -/

namespace Act

variable {s : Service σ} {D : Option Instant} {f : String → Option Instant}

/-- Whether an act on a host heeds a deadline and leaves the deadlines of all contexts as they are. -/
def HeedsAt (s : Service σ) (D : Option Instant) (f : String → Option Instant) (x : Act σ α)
    (h : Host σ) : Prop :=
  h.deadlineOf = f → ∃ l, Asks s.server x h l ∧ Timed s D l ∧ (x h).host.deadlineOf = f

/-- Whether an act heeds a deadline on every host with the same deadlines. -/
def Heeds (s : Service σ) (D : Option Instant) (f : String → Option Instant) (x : Act σ α) : Prop :=
  ∀ h, x.HeedsAt s D f h

namespace HeedsAt

variable {h : Host σ}

theorem bind {x : Act σ α} {k : α → Act σ β} (hx : x.HeedsAt s D f h)
    (hk : ∀ a, (k a).Heeds s D f) : (x >>= k).HeedsAt s D f h := by
  intro hf
  obtain ⟨l, hl, htl, hfl⟩ := hx hf
  by_cases ho : ∃ a, (x h).outcome = .value a
  · obtain ⟨a, ho⟩ := ho
    obtain ⟨m, hm, htm, hfm⟩ := hk a (x h).host hfl
    refine ⟨l ++ m, .bind hl ho hm, htl.append htm, ?_⟩
    rw [bind_of_value ho]
    exact hfm
  · have hstop : ∀ a, (x h).outcome ≠ .value a := fun a hv => ho ⟨a, hv⟩
    refine ⟨l, .stop hl hstop, htl, ?_⟩
    rw [(bind_of_stop hstop).1]
    exact hfl

theorem settle {x : Act σ α} (hx : x.HeedsAt s D f h) : (Act.settle x).HeedsAt s D f h := by
  intro hf
  obtain ⟨l, hl, ht, hd⟩ := hx hf
  refine ⟨l, .settle hl, ht, ?_⟩
  rw [host_settle]
  exact hd

theorem attempt {x : Act σ α} (hx : x.HeedsAt s D f h) : (Act.attempt x).HeedsAt s D f h := by
  intro hf
  obtain ⟨l, hl, ht, hd⟩ := hx hf
  refine ⟨l, .attempt hl, ht, ?_⟩
  rw [host_attempt]
  exact hd

/-- A call that has just been given the budget of its kind. -/
theorem callWithin {secs : Nat} {call : Call} {operation : String}
    (hs : s.timeout? call = some secs) (hop : operation = call.operation) (hna : call ≠ .acquire) :
    (s.server.callWithin (Service.budgetAt D secs h.now) operation call).HeedsAt s D f h := by
  intro hf
  have hc : call.isBounded = true := by cases call <;> first | rfl | cases hs
  exact ⟨_, .callWithin _ operation hc h,
    .single ⟨hop, secs, hs, rfl⟩ (fun ha => absurd ha hna) .nil,
    ((Aloof.callWithin s.server _ operation call).deadlineOf_eq h).trans hf⟩

end HeedsAt

namespace Heeds

/-- An act that asks for nothing and stores nothing. -/
theorem quiet {x : Act σ α} (hx : ∀ h, Asks s.server x h []) (ha : x.Aloof) : x.Heeds s D f :=
  fun h hf => ⟨[], hx h, .nil, (ha.deadlineOf_eq h).trans hf⟩

theorem pure (a : α) : (Pure.pure a : Act σ α).Heeds s D f := quiet (.pure a) (.pure a)

theorem fail (g : Failure) : (Act.fail g : Act σ α).Heeds s D f := quiet (.fail g) (.fail g)

theorem panic (p : Payload) : (Act.panic p : Act σ α).Heeds s D f := quiet (.panic p) (.panic p)

theorem log (e : Event) : (Act.log e).Heeds s D f := quiet (.log e) (.log e)

theorem release (c : ConnId) : (s.server.call (.release c)).Heeds s D f :=
  quiet (.release c) (.call s.server _)

theorem discard (c : ConnId) : (s.server.discard c).Heeds s D f :=
  quiet (.discard c) (.discard s.server c)

theorem store {x : Context} (hx : x.deadline = f x.id) : (Act.store x).Heeds s D f := by
  rintro h rfl
  exact ⟨[], .store x h, .nil, Host.deadlineOf_put hx⟩

theorem bind {x : Act σ α} {k : α → Act σ β} (hx : x.Heeds s D f) (hk : ∀ a, (k a).Heeds s D f) :
    (x >>= k).Heeds s D f := fun h => (hx h).bind hk

theorem settle {x : Act σ α} (hx : x.Heeds s D f) : (Act.settle x).Heeds s D f :=
  fun h => (hx h).settle

theorem attempt {x : Act σ α} (hx : x.Heeds s D f) : (Act.attempt x).Heeds s D f :=
  fun h => (hx h).attempt

theorem observe {x : Act σ α} (hx : x.Heeds s D f) (operation : String) :
    (s.observe operation x).Heeds s D f := by
  intro h hf
  obtain ⟨l, hl, ht, hd⟩ := hx h hf
  exact ⟨l, .observe s operation hl, ht, hd⟩

/-- What is done with a context may rely on its deadline. -/
theorem context_bind {id : String} {k : Context → Act σ α}
    (hk : ∀ ctx : Context, ctx.id = id → ctx.deadline = f id → (k ctx).Heeds s D f) :
    (Act.context id >>= k).Heeds s D f := by
  rintro h rfl
  obtain ⟨l, hl, ht, hd⟩ := hk (h.context id) (h.id_context id) rfl h rfl
  exact ⟨l, .bind (.context id h) rfl hl, ht, hd⟩

/-- What is done with a budget is done when the budget starts. -/
theorem budget_bind {secs : Nat} {k : Budget → Act σ α}
    (hk : ∀ h : Host σ, (k (Service.budgetAt D secs h.now)).HeedsAt s D f h) :
    (Service.budget D secs >>= k).Heeds s D f := by
  intro h hf
  rcases Service.budget_eq D secs h with e | e
  · have hstop : ∀ b, (Service.budget D secs h).outcome ≠ .value b := by simp [e]
    refine ⟨[], .stop (.budget D secs h) hstop, .nil, ?_⟩
    rw [(bind_of_stop hstop).1, e]
    exact hf
  · have hvalue : (Service.budget D secs h).outcome = .value (Service.budgetAt D secs h.now) := by rw [e]
    obtain ⟨l, hl, ht, hd⟩ := hk h hf
    refine ⟨l, hl.after_budget e, ht, ?_⟩
    rw [bind_of_value hvalue, e]
    exact hd

end Heeds
end Act

/-! ### Operations -/

namespace Service

variable {s : Service σ} {D : Option Instant} {f : String → Option Instant} {id : String}

/-- An attempt at a connection acquires and pings it on one budget. -/
theorem heeds_tryConnect : (s.tryConnect D).Heeds s D f := by
  intro h hf
  have hend : (s.tryConnect D h).host.deadlineOf = f :=
    ((aloof_tryConnect s D).deadlineOf_eq h).trans hf
  suffices ∃ l, Asks s.server (s.tryConnect D) h l ∧ Timed s D l by
    obtain ⟨l, hl, ht⟩ := this
    exact ⟨l, hl, ht, hend⟩
  rcases budget_eq D s.settings.connectSecs h with e | e
  · have hstop : ∀ b, (budget D s.settings.connectSecs h).outcome ≠ .value b := by simp [e]
    exact ⟨[], .stop (.budget D _ h) hstop, .nil⟩
  let b := budgetAt D s.settings.connectSecs h.now
  let acquired := s.server.inquiry b "acquire" .acquire h
  have hacquire : Asks s.server (s.server.callWithin b "acquire" .acquire) h [acquired] :=
    .callWithin b "acquire" rfl h
  have hown : acquired.Budgeted s D h.now := ⟨rfl, s.settings.connectSecs, rfl, rfl⟩
  by_cases ho : ∃ r, (s.server.callWithin b "acquire" .acquire h).outcome = .value r
  · obtain ⟨r, ho⟩ := ho
    obtain ⟨t, ht, hleft⟩ := s.server.inquiry_answered ho
    let h₁ : Host σ := (s.server.callWithin b "acquire" .acquire h).host
    let h₂ : Host σ := { h₁ with handedOut := h₁.handedOut + 1 }
    let pinged := s.server.inquiry b "ping" (.ping (h₁.handedOut + 1)) h₂
    have hping : Asks s.server (s.server.callWithin b "ping" (.ping (h₁.handedOut + 1))) h₂ [pinged] :=
      .callWithin b "ping" rfl h₂
    refine ⟨[acquired, pinged], .after_budget e (.bind hacquire ho (.bind (.handOut h₁) rfl
      (hping.settle.then_quiet fun ended h => ?_))), ?_⟩
    · cases ended with
      | value _ => exact .pure _ h
      | failure g => exact .bind (.discard _ h) rfl (.fail g _)
      | panic p => exact .bind (.drop _ h) rfl (.panic p _)
    · exact .attempt hown rfl ho ht ⟨rfl, s.settings.connectSecs, rfl, rfl⟩ rfl hleft .nil
  · have hnone : ∀ r, acquired.yielded ≠ .value r := fun r hr => ho ⟨r, hr⟩
    exact ⟨[acquired], .after_budget e (.stop hacquire hnone), .single hown (fun _ => hnone) .nil⟩

theorem heeds_connectWithin : ∀ left next : Nat, (s.connectWithin D left next).Heeds s D f
  | 0, _ => .bind (.log _) fun _ => .fail _
  | left + 1, next => by
      unfold connectWithin
      apply Act.Heeds.bind heeds_tryConnect.attempt
      intro ended
      cases ended with
      | ok c => exact .pure c
      | error g => exact .bind (.log _) fun _ => heeds_connectWithin left (next + 1)

theorem heeds_startTransaction {ctx : Context} (hctx : ctx.deadline = f ctx.id) (acquired : Bool) :
    (s.startTransaction ctx acquired).Heeds s ctx.deadline f := by
  unfold startTransaction
  apply Act.Heeds.budget_bind
  intro h
  cases ctx.handle.conn? with
  | none => exact Act.Heeds.fail _ h
  | some c =>
      have hbegin : (s.server.callWithin (budgetAt ctx.deadline s.settings.writeSecs h.now) "begin"
          (.begin c)).HeedsAt s ctx.deadline f h := .callWithin rfl rfl nofun
      apply hbegin.attempt.bind
      intro ended
      cases ended with
      | ok _ => exact .bind (.store hctx) fun _ => .log _
      | error g =>
          cases acquired with
          | false => exact .fail g
          | true => exact .bind (.store hctx) fun _ => .bind (.discard c) fun _ => .fail g

theorem heeds_joinTransaction {ctx : Context} (hctx : ctx.deadline = f ctx.id) :
    (joinTransaction ctx : Act σ Unit).Heeds s D f := by
  unfold joinTransaction
  split
  · exact .fail _
  · exact .bind (.store hctx) fun _ => .log _

theorem heeds_beginUnguarded : (s.beginUnguarded id).Heeds s (f id) f := by
  unfold beginUnguarded
  apply Act.Heeds.context_bind
  rintro ctx rfl hctx
  have hrest : (do
      let held ← Act.context ctx.id
      if held.level = 0 then s.startTransaction held ctx.handle.isDetached
      else joinTransaction held : Act σ Unit).Heeds s (f ctx.id) f := by
    apply Act.Heeds.context_bind
    intro held hid hheld
    rw [← hid] at hheld ⊢
    split
    · rw [← hheld]
      exact heeds_startTransaction hheld _
    · exact heeds_joinTransaction hheld
  split
  · rw [hctx]
    exact .bind (heeds_connectWithin _ _) fun c => .bind (.store rfl) fun _ => hrest
  · exact hrest

theorem heeds_discardUnknown : (s.discardUnknown id).Heeds s D f := by
  unfold discardUnknown
  apply Act.Heeds.context_bind
  rintro ctx rfl hctx
  split
  · cases ctx.handle.conn? with
    | none => exact .pure ()
    | some c => exact .bind (.store hctx) fun _ => .discard c
  · exact .pure ()

theorem heeds_begin : (s.begin id).Heeds s (f id) f := by
  apply Act.Heeds.observe
  apply Act.Heeds.bind heeds_beginUnguarded.settle
  intro ended
  cases ended with
  | value _ => exact .pure ()
  | failure g => exact .fail g
  | panic p => exact .bind (.log _) fun _ => .bind heeds_discardUnknown fun _ => .fail _

theorem heeds_commit : (s.commit id).Heeds s (f id) f := by
  apply Act.Heeds.observe
  apply Act.Heeds.context_bind
  rintro ctx rfl hctx
  split
  · exact .fail _
  split
  · exact .fail _
  split
  · exact .bind (.store hctx) fun _ => .log _
  rw [hctx]
  apply Act.Heeds.budget_bind
  intro h
  cases ctx.handle.conn? with
  | none => exact Act.Heeds.fail _ h
  | some c =>
      have hcommit : (s.server.callWithin (budgetAt (f ctx.id) s.settings.writeSecs h.now) "commit"
          (.commit c)).HeedsAt s (f ctx.id) f h := .callWithin rfl rfl nofun
      apply hcommit.bind
      intro _
      refine .bind (.log _) fun _ => .bind (.store rfl) fun _ => .bind (.attempt (.release c)) fun ended => ?_
      cases ended with
      | ok _ => exact .pure ()
      | error g => exact .bind (.log _) fun _ => .fail g

theorem heeds_rollback : (s.rollback id).Heeds s (f id) f := by
  apply Act.Heeds.observe
  apply Act.Heeds.context_bind
  rintro ctx rfl hctx
  split
  · exact .pure ()
  split
  · exact .fail _
  rw [hctx]
  apply Act.Heeds.budget_bind
  intro h
  cases ctx.handle.conn? with
  | none => exact Act.Heeds.bind (.store rfl) (fun _ => .bind (.log _) fun _ => .fail _) h
  | some c =>
      have hrollback : (s.server.callWithin (budgetAt (f ctx.id) s.settings.writeSecs h.now) "rollback"
          (.rollback c)).HeedsAt s (f ctx.id) f h := .callWithin rfl rfl nofun
      apply hrollback.attempt.bind
      intro ended
      apply Act.Heeds.bind (.store rfl)
      intro _
      cases ended with
      | ok _ => exact .bind (.log _) fun _ => .bind (.release c) fun _ => .pure ()
      | error g => exact .bind (.log _) fun _ => .bind (.discard c) fun _ => .fail g

theorem heeds_conclude : ∀ ended : Settled α, (s.conclude id ended).Heeds s (f id) f
  | .value a => .bind heeds_commit fun _ => .pure a
  | .failure g => by
      apply Act.Heeds.bind heeds_rollback.attempt
      intro ended
      cases ended <;> exact .fail _
  | .panic p => by
      refine .bind (.log _) fun _ => .bind heeds_rollback.attempt fun ended => ?_
      cases ended with
      | ok _ => exact .panic p
      | error g => exact .bind (.log _) fun _ => .panic p

theorem heeds_close : (s.close id).Heeds s D f := by
  unfold close
  apply Act.Heeds.context_bind
  rintro ctx rfl hctx
  split
  · exact .fail _
  cases ctx.handle.conn? with
  | none => exact .pure ()
  | some c => exact .bind (.store hctx) fun _ => .bind (.release c) fun _ => .log _

/-- A call for a context, with a budget of its own. -/
theorem heeds_call {secs : Nat} {operation : String} (call : Context → Call)
    (k : Context → Reply → Act σ α) (hsecs : ∀ ctx, s.timeout? (call ctx) = some secs)
    (hop : ∀ ctx, operation = (call ctx).operation) (hna : ∀ ctx, call ctx ≠ .acquire)
    (hk : ∀ ctx r, (k ctx r).Heeds s (f id) f) : (do
      let ctx ← Act.context id
      let b ← budget ctx.deadline secs
      let r ← s.server.callWithin b operation (call ctx)
      k ctx r).Heeds s (f id) f := by
  apply Act.Heeds.context_bind
  intro ctx _ hctx
  rw [hctx]
  apply Act.Heeds.budget_bind
  intro h
  have hcall : (s.server.callWithin (budgetAt (f id) secs h.now) operation (call ctx)).HeedsAt s (f id) f
      h := .callWithin (hsecs ctx) (hop ctx) (hna ctx)
  exact hcall.bind (hk ctx)

theorem heeds_testConnection : (s.testConnection id).Heeds s (f id) f := by
  apply Act.Heeds.observe
  apply heeds_call _ _
  · intro ctx
    cases ctx.handle.conn? <;> rfl
  · intro ctx
    cases ctx.handle.conn? <;> rfl
  · intro ctx hacquire
    cases hc : ctx.handle.conn? <;> simp only [hc] at hacquire <;> cases hacquire
  · exact fun _ _ => .pure ()

theorem heeds_select (sql : String) (lock : Bool) (params : List Param) :
    (s.select id sql lock params).Heeds s (f id) f := by
  apply Act.Heeds.observe
  exact heeds_call (fun ctx => .fetch (.ofHandle ctx.handle) _ params) _ (fun _ => rfl) (fun _ => rfl)
    (fun _ => nofun) fun _ _ => .bind (.log _) fun _ => .pure _

theorem heeds_execute (sql : String) (params : List Param) :
    (s.execute id sql params).Heeds s (f id) f := by
  apply Act.Heeds.observe
  exact heeds_call (fun ctx => .execute (.ofHandle ctx.handle) sql params) _ (fun _ => rfl)
    (fun _ => rfl) (fun _ => nofun) fun _ _ => .bind (.log _) fun _ => .pure _

theorem heeds_statementAct (kind : Rehearsal.StatementKind) (request : Rehearsal.Request) :
    (Rehearsal.statementAct s id kind request).Heeds s (f id) f :=
  statementAct_rule (fun x => x.Heeds s (f id) f) .pure .fail .bind heeds_select heeds_execute kind
    request

end Service

/-- The context that an operation works through, unless it makes a new one or sets a deadline. -/
def Operation.through? : Operation → Option String
  | testConnection id => some id
  | close id => some id
  | begin id => some id
  | commit id => some id
  | rollback id => some id
  | conclude id _ => some id
  | statement id _ => some id
  | connection _ => none
  | replace .. => none
  | setDeadline .. => none

/-- **Step.**  Every operation that works through a context heeds the deadline of that context. -/
theorem Operation.heeds_act {s : Service σ} {f : String → Option Instant} {id : String} :
    ∀ {o : Operation}, o.through? = some id → (o.act s).Heeds s (f id) f
  | testConnection _, rfl => Service.heeds_testConnection
  | close _, rfl => Service.heeds_close
  | begin _, rfl => Service.heeds_begin
  | commit _, rfl => Service.heeds_commit
  | rollback _, rfl => Service.heeds_rollback
  | conclude _ ended, rfl => Service.heeds_conclude ended
  | statement _ e, rfl => .bind (Service.heeds_statementAct e.kind e.request) fun _ => .pure ()

/-- **Run.**  Operations that work through contexts leave all deadlines as they are. -/
theorem Session.deadlineOf_eq {s : Service σ} {h₀ h : Host σ} {j : List Entry}
    (hs : Session s (fun o _ => o.through?.isSome) h₀ j h) : h.deadlineOf = h₀.deadlineOf := by
  induction hs with
  | start => rfl
  | operation _ o ho ih =>
      obtain ⟨id, hid⟩ := Option.isSome_iff_exists.mp ho
      obtain ⟨_, _, _, hd⟩ := Operation.heeds_act hid _ ih
      exact hd
  | outside _ hc _ ih =>
      funext id
      rw [← ih, Host.deadlineOf, Host.context, hc]
      rfl

/-- **Deadlines bound every round trip.**  After any operations that work through contexts, whenever they
come and however each of them ends, the next one asks for bounded calls under the deadline of its context.
It makes those that it asks for before their time is up, and gives each up when that is so; a call that
has not completed by then yields a timeout, and any other what the server says. -/
theorem deadlines_bound_round_trips {s : Service σ} {h₀ h : Host σ} {j : List Entry}
    (hs : Session s (fun o _ => o.through?.isSome) h₀ j h) {o : Operation} {id : String}
    (ho : o.through? = some id) :
    ∃ l, Asks s.server (o.act s) h l ∧
      ((o.act s).trace h).trips.filter (·.call.isBounded) = l.filterMap Inquiry.trip? ∧
      Timed s (h₀.deadlineOf id) l ∧
      (∀ i ∈ l, i.Lawful) ∧
      ∀ t ∈ ((o.act s).trace h).trips, t.call.isBounded = true →
        ∃ secs, s.timeout? t.call = some secs ∧ t.left ≤ t.started + secs * 1000 ∧
          ∀ d, h₀.deadlineOf id = some d → t.started < d ∧ t.left ≤ d := by
  obtain ⟨l, hasks, htimed, _⟩ := Operation.heeds_act ho h hs.deadlineOf_eq
  have htrips := hasks.trips_eq
  have hlawful := hasks.lawful
  refine ⟨l, hasks, htrips, htimed, hlawful, fun t ht hbounded => htimed.within hlawful ?_⟩
  rw [← htrips]
  exact List.mem_filter.mpr ⟨ht, hbounded⟩

/-- A service whose server takes its time, and never begins a transaction. -/
def Service.sluggish : Service Unit where
  server :=
    { react := fun _ call => (match call with
        | .acquire => ⟨700, .reply .done⟩
        | .pingServer => ⟨200, .reply .done⟩
        | .ping _ => ⟨200, .reply .done⟩
        | .begin _ => ⟨0, .never⟩
        | _ => ⟨0, .reply .done⟩, ())
      abandon := fun _ _ => () }
  settings := ⟨2, 1, 1, 2, "db", false⟩

/-- A connection is there in time, and the begin on it is given up at the deadline. -/
theorem deadlines_bound_round_trips_sluggish :
    let h₀ := (Host.fresh () 0).put (.vacant "a" (some 1500))
    let x := (Operation.begin "a").act Service.sluggish
    ∃ j h, Session Service.sluggish (fun o _ => o.through?.isSome) h₀ j h ∧
      (Operation.begin "a").through? = some "a" ∧
      (x h).outcome = .failure (.timeout "begin" 2) ∧ h.now = 200 ∧ (x h).host.now = 1500 ∧
      ∃ l, Asks Service.sluggish.server x h l ∧
        (x.trace h).trips.filter (·.call.isBounded) = l.filterMap Inquiry.trip? ∧
        Timed Service.sluggish (h₀.deadlineOf "a") l ∧
        (∀ i ∈ l, i.Lawful) ∧
        ∀ t ∈ (x.trace h).trips, t.call.isBounded = true →
          ∃ secs, Service.sluggish.timeout? t.call = some secs ∧ t.left ≤ t.started + secs * 1000 ∧
            ∀ d, h₀.deadlineOf "a" = some d → t.started < d ∧ t.left ≤ d := by
  intro h₀ x
  have hstart : Session Service.sluggish (fun o _ => o.through?.isSome) h₀ [] h₀ := .start
  have hping := hstart.operation (.testConnection "a") rfl
  exact ⟨_, _, hping, rfl, by decide +kernel, by decide +kernel, by decide +kernel,
    deadlines_bound_round_trips hping rfl⟩

end SqlSession
