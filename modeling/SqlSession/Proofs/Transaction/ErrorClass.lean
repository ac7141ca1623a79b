import SqlSession.Proofs.Custody.Doubt

/-! # What becomes of a failure inside of transactions

A transaction whose body fails is rolled back, and passes the failure on; if its rollback fails too, it
passes on both failures as one (`Failure.Passed`).  The transactions around it find nothing left to roll
back, and pass on what they get.  So the failure that comes out is that of the innermost transaction, at
whatever depth (`FailsWithin.undone`).  It has the code of the failure that went in; but whether the
connection is at fault can no longer be told from it once the rollback has failed
(`failure_through_transactions`).  In particular a statement that comes too late is followed by a rollback
that comes too late, and the two timeouts together do not count as connectivity
(`late_rollback_hides_timeout`). -/

namespace SqlSession

/-- An end in neither a value nor a failure. -/
def Outcome.Lost (o : Outcome α) : Prop := o = .hang ∨ ∃ p, o = .panic p

namespace Outcome.Lost

variable {o : Outcome α}

theorem ne_value (ho : o.Lost) (a : α) : o ≠ .value a := by
  rcases ho with e | ⟨p, e⟩ <;> rw [e] <;> exact nofun

theorem ne_failure (ho : o.Lost) (f : Failure) : o ≠ .failure f := by
  rcases ho with e | ⟨p, e⟩ <;> rw [e] <;> exact nofun

end Outcome.Lost

/-- The failure that a transaction passes on after the failure `f` of its body, when its rollback has ended
so. -/
inductive Failure.Passed (f : Failure) : Outcome Unit → Failure → Prop
  | alone : Passed f (.value ()) f
  | both (r : Failure) : Passed f (.failure r) (.rollbackFailed f r)

namespace Failure.Passed

variable {f g : Failure} {o : Outcome Unit}

theorem iff : f.Passed o g ↔ o = .value () ∧ g = f ∨ ∃ r, o = .failure r ∧ g = .rollbackFailed f r := by
  constructor
  · rintro (_ | ⟨r⟩)
    · exact .inl ⟨rfl, rfl⟩
    · exact .inr ⟨r, rfl, rfl⟩
  · rintro (⟨rfl, rfl⟩ | ⟨r, rfl, rfl⟩)
    · exact .alone
    · exact .both r

theorem not_lost (hp : f.Passed o g) : ¬ o.Lost := by
  intro ho
  cases hp with
  | alone => exact ho.ne_value () rfl
  | both r => exact ho.ne_failure r rfl

theorem code?_eq (hp : f.Passed o g) : g.code? = f.code? := by
  cases hp <;> rfl

/-- A failed rollback hides that the connection was at fault. -/
theorem isConnectivity_iff (hp : f.Passed o g) :
    g.isConnectivity = true ↔ f.isConnectivity = true ∧ o = .value () := by
  cases hp <;> simp [isConnectivity]

end Failure.Passed

/-- The run of a transaction after the failure `f` of its body and the rollback `undo`. -/
inductive Run.Undone (r : Run σ α) (f : Failure) (undo : Run σ Unit) : Prop
  | failed {g : Failure} (hp : f.Passed undo.outcome g) (ho : r.outcome = .failure g)
      (hh : r.host = undo.host)
  | lost (hu : undo.outcome.Lost) (ho : r.outcome.Lost)

namespace Run.Undone

variable {r : Run σ α} {f : Failure} {undo : Run σ Unit}

theorem ne_value (hr : r.Undone f undo) (a : α) : r.outcome ≠ .value a := by
  cases hr with
  | failed _ ho => rw [ho]; exact nofun
  | lost _ ho => exact ho.ne_value a

theorem outcome_eq_failure_iff (hr : r.Undone f undo) {g : Failure} :
    r.outcome = .failure g ↔ f.Passed undo.outcome g := by
  cases hr with
  | @failed g' hp ho =>
      have hone : f.Passed undo.outcome g → g' = g := by
        generalize undo.outcome = o at hp
        intro hg
        cases hp <;> cases hg <;> rfl
      rw [ho, Outcome.failure.injEq]
      exact ⟨fun e => e ▸ hp, hone⟩
  | lost hu ho => exact ⟨fun e => absurd e (ho.ne_failure g), fun hp => absurd hu hp.not_lost⟩

theorem of_eq {r' : Run σ α} (hr : r.Undone f undo) (ho : r'.outcome = r.outcome)
    (hh : r'.host = r.host) : r'.Undone f undo := by
  cases hr with
  | failed hp ho' hh' => exact .failed hp (ho.trans ho') (hh.trans hh')
  | lost hu ho' => exact .lost hu (by rw [ho]; exact ho')

/-- What would come after a transaction that has been undone does not happen. -/
theorem bind {x : Act σ β} {h : Host σ} (hr : (x h).Undone f undo) (k : β → Act σ α) :
    ((x >>= k) h).Undone f undo := by
  cases hr with
  | failed hp ho hh =>
      refine .failed hp ?_ ((Act.bind_of_stop (by rw [ho]; exact nofun)).1.trans hh)
      simp only [Bind.bind, Act.bind, ho]
  | lost hu ho =>
      refine .lost hu ?_
      rcases ho with e | ⟨p, e⟩
      · exact .inl (by simp only [Bind.bind, Act.bind, e])
      · exact .inr ⟨p, by simp only [Bind.bind, Act.bind, e]⟩

end Run.Undone

/-- A rollback has succeeded if the server has rolled back and has taken the connection. -/
theorem RollingBack.eq_value_iff {s : Service σ} {c : ConnId} {deadline : Option Instant} {now : Instant}
    {l : List RoundTrip} {o : Outcome Unit} (hr : RollingBack s c deadline now l o) :
    o = .value () ↔ ∃ t r, l = [t, r] ∧ t.call = .rollback c ∧ t.succeeded = true ∧
      r.call = .release c ∧ r.succeeded = true := by
  cases hr with
  | late hd hf => simp
  | refused ht hs hd => simp [hs]
  | @released t r ht hs hr =>
      rw [RoundTrip.done_eq_value_iff]
      constructor
      · intro hrs
        exact ⟨t, r, rfl, ht, hs, hr, hrs⟩
      · rintro ⟨_, _, e, -, -, -, hrs⟩
        obtain ⟨-, rfl⟩ : t = _ ∧ r = _ := by simpa using e
        exact hrs
  | clock hp => simp

namespace Service

variable {s : Service σ} {id : String} {h : Host σ} {f : Failure}

/-! ### Rollbacks -/

theorem rollback_of_closed (hl : (h.context id).level = 0) :
    (s.rollback id h).outcome = .value () ∧ (s.rollback id h).host = h := by
  obtain ⟨ho, hh, -⟩ := Act.run_of_trace (trace_rollback_of_closed (s := s) hl)
  exact ⟨ho, hh⟩

theorem level_of_rollback (hs : (h.context id).Sound) (ho : ¬ (s.rollback id h).outcome.Lost) :
    ((s.rollback id h).host.context id).level = 0 := by
  by_cases hl : (h.context id).level = 0
  · rw [(rollback_of_closed hl).2, hl]
  obtain ⟨c, n, deadline, hx⟩ := Host.exists_opened hs hl
  obtain ⟨h', e, hleft⟩ := trace_rollback_cases (s := s) hx
  obtain ⟨houtcome, hhost, -⟩ := Act.run_of_trace e
  rcases hleft with hvacant | ⟨-, -, hclock⟩ | ⟨t, -, -, p, -, hp⟩
  · rw [hhost, hvacant]
    rfl
  · exact absurd (.inr ⟨clockFault, by rw [houtcome, hclock]⟩) ho
  · exact absurd (.inr ⟨p, houtcome.trans hp⟩) ho

/-- A rollback succeeds if there is nothing to roll back, or if the server has rolled back and has taken the
connection. -/
theorem rollback_eq_value_iff (hs : (h.context id).Sound) :
    (s.rollback id h).outcome = .value () ↔ (h.context id).level = 0 ∨
      ∃ c t r, (h.context id).handle.conn? = some c ∧ (s.rollback id h).trips = [t, r] ∧
        t.call = .rollback c ∧ t.succeeded = true ∧ r.call = .release c ∧ r.succeeded = true := by
  by_cases hl : (h.context id).level = 0
  · exact ⟨fun _ => .inl hl, fun _ => (rollback_of_closed hl).1⟩
  obtain ⟨c, n, deadline, hx⟩ := Host.exists_opened hs hl
  obtain ⟨h', e, -⟩ := trace_rollback_cases (s := s) hx
  obtain ⟨houtcome, -, htrips⟩ := Act.run_of_trace e
  have hconn : (h.context id).handle.conn? = some c := by rw [hx]; rfl
  have hshape := s.rollbackOn_cases c deadline h
  rw [← houtcome, ← htrips] at hshape
  simp only [hl, false_or, hconn, Option.some.injEq]
  rcases hshape with hroll | ⟨u, hu, ha, p, hp, ho⟩
  · rw [hroll.eq_value_iff]
    constructor
    · rintro ⟨t, r, hcalls⟩
      exact ⟨c, t, r, rfl, hcalls⟩
    · rintro ⟨_, t, r, rfl, hcalls⟩
      exact ⟨t, r, hcalls⟩
  · -- the call that has panicked is neither the rollback that succeeded nor the release
    have hus : u.succeeded = false := by simp [RoundTrip.succeeded, hp]
    rw [ho]
    constructor
    · intro hvalue
      cases hvalue
    · rintro ⟨_, t, r, rfl, hl, ht, hts, hr, hrs⟩
      rw [hl] at hu
      obtain rfl | rfl : u = t ∨ u = r := by simpa using hu
      · rw [hts] at hus
        cases hus
      · rw [hrs] at hus
        cases hus

theorem rollback_of_late {d : Instant} (hs : (h.context id).Sound) (hl : 0 < (h.context id).level)
    (hd : (h.context id).deadline = some d) (hpast : d ≤ h.now)
    (hclock : h.now + s.settings.writeSecs * 1000 < clockLimit) :
    (s.rollback id h).outcome = .failure (.timeout "rollback" (min s.settings.writeSecs secsLimit)) ∧
    ∃ c t, (h.context id).handle.conn? = some c ∧ (s.rollback id h).trips = [t] ∧
      t.call = .discard c := by
  obtain ⟨c, n, deadline, hx⟩ := Host.exists_opened hs (Nat.ne_of_gt hl)
  obtain rfl : deadline = some d := by rw [hx] at hd; exact hd
  rcases budget_cases (some d) s.settings.writeSecs h with ⟨hc, -⟩ | ⟨-, b, hb, hsecs, hbudget⟩
  · exact absurd hc (Int.not_le.mpr hclock)
  -- the budget ends no later than the deadline, and that is over
  have hover : b.deadline ≤ h.now := by
    rw [hb]
    exact Int.le_trans (Int.min_le_left d _) hpast
  have hcall : (s.server.callWithin b "rollback" (.rollback c)).trace h =
      ⟨.failure (.timeout "rollback" b.secs), h, []⟩ := by
    simp [Act.trace, Server.callWithin, hover, Run.trips]
  obtain ⟨t, state, ht, hdiscard⟩ := s.server.trace_discard c (h.put (.vacant id (some d)))
  have hundo : (s.rollback id).trace h = ⟨.failure (.timeout "rollback" b.secs),
      (h.put (.vacant id (some d))).afterTrip state t, [t]⟩ := by
    have hb' : (budget (some d) s.settings.writeSecs : Act σ Budget).trace h = ⟨.value b, h, []⟩ := by
      simp [Act.trace, Run.trips, hbudget]
    simp only [Context.vacant] at hdiscard
    simp [rollback, hx, Context.opened, Context.vacant, Handle.inTransaction, Handle.conn?, hb', hcall,
      Outcome.attempted, hdiscard]
  obtain ⟨houtcome, -, htrips⟩ := Act.run_of_trace hundo
  rw [hsecs] at houtcome
  exact ⟨houtcome, c, t, by rw [hx]; rfl, htrips, ht⟩

/-! ### The end of a transaction -/

theorem withTransaction_of_ended {body : Act σ α} (ended : Settled α)
    (hb : (s.begin id h).outcome = .value ())
    (he : (body (s.begin id h).host).outcome = ended.outcome) :
    (s.withTransaction id body h).outcome =
      (s.conclude id ended (body (s.begin id h).host).host).outcome ∧
    (s.withTransaction id body h).host =
      (s.conclude id ended (body (s.begin id h).host).host).host := by
  cases ended <;>
    simp only [Settled.outcome] at he <;>
    simp only [withTransaction, Bind.bind, Act.bind, Act.settle, hb, he, and_self]

theorem conclude_failure (id : String) (f : Failure) (h : Host σ) :
    (s.conclude id (.failure f : Settled α) h).Undone f (s.rollback id h) := by
  cases ho : (s.rollback id h).outcome with
  | value a =>
      refine .failed (by rw [ho]; exact .alone) ?_ ?_ <;>
        simp only [conclude, Bind.bind, Act.bind, Act.attempt, ho, Act.fail]
  | failure r =>
      refine .failed (by rw [ho]; exact .both r) ?_ ?_ <;>
        simp only [conclude, Bind.bind, Act.bind, Act.attempt, ho, Act.fail]
  | panic p =>
      refine .lost (.inr ⟨p, ho⟩) (.inr ⟨p, ?_⟩)
      simp only [conclude, Bind.bind, Act.bind, Act.attempt, ho]
  | hang =>
      refine .lost (.inl ho) (.inl ?_)
      simp only [conclude, Bind.bind, Act.bind, Act.attempt, ho]

theorem lost_conclude_panic (id : String) (p : Payload) (h : Host σ) :
    (s.conclude id (.panic p : Settled α) h).outcome.Lost := by
  simp only [conclude, Bind.bind, Act.bind, Act.log, Act.write, Act.attempt]
  cases ho : (s.rollback id h).outcome with
  | value a => exact .inr ⟨p, rfl⟩
  | failure r => exact .inr ⟨p, rfl⟩
  | panic q => exact .inr ⟨q, rfl⟩
  | hang => exact .inl rfl

/-! ### Transactions around a transaction -/

/-- Done on a host, an act comes to a transaction, inside of `n` others, that begins, and whose body fails
with `f` and leaves the host `left`. -/
inductive FailsWithin (s : Service σ) (id : String) (f : Failure) (left : Host σ) :
    Nat → {α : Type} → Act σ α → Host σ → Prop
  | innermost {α : Type} {body : Act σ α} {h : Host σ} (hb : (s.begin id h).outcome = .value ())
      (ho : (body (s.begin id h).host).outcome = .failure f)
      (hl : (body (s.begin id h).host).host = left) :
      FailsWithin s id f left 0 (s.withTransaction id body) h
  | around {α : Type} {n : Nat} {body : Act σ α} {h : Host σ}
      (hb : (s.begin id h).outcome = .value ())
      (hin : FailsWithin s id f left n body (s.begin id h).host) :
      FailsWithin s id f left (n + 1) (s.withTransaction id body) h
  | after {α β : Type} {n : Nat} {x : Act σ β} {b : β} {k : β → Act σ α} {h : Host σ}
      (hx : (x h).outcome = .value b) (hin : FailsWithin s id f left n (k b) (x h).host) :
      FailsWithin s id f left n (x >>= k) h
  | before {α β : Type} {n : Nat} {x : Act σ β} {h : Host σ} (hin : FailsWithin s id f left n x h)
      (k : β → Act σ α) : FailsWithin s id f left n (x >>= k) h

/-- **Step.**  A transaction around one that has been undone passes on what it gets. -/
theorem withTransaction_of_undone {undo : Run σ Unit} {body : Act σ α}
    (hb : (s.begin id h).outcome = .value ())
    (hin : (body (s.begin id h).host).Undone f undo)
    (hl : ¬ undo.outcome.Lost → (undo.host.context id).level = 0) :
    (s.withTransaction id body h).Undone f undo := by
  cases hin with
  | @failed g hp ho hh =>
      obtain ⟨hout, hhost⟩ := withTransaction_of_ended (.failure g) hb ho
      obtain ⟨hnone, hsame⟩ := rollback_of_closed (s := s) (hl hp.not_lost)
      rw [hh] at hout hhost
      cases conclude_failure (s := s) (α := α) id g undo.host with
      | failed hp' ho' hh' =>
          rw [hnone] at hp'
          cases hp'
          exact .failed hp (hout.trans ho') (hhost.trans (hh'.trans hsame))
      | lost hu => exact absurd hnone (hu.ne_value ())
  | lost hu ho =>
      refine .lost hu ?_
      rcases ho with e | ⟨p, e⟩
      · exact .inl (by simp only [withTransaction, Bind.bind, Act.bind, Act.settle, hb, e])
      · rw [(withTransaction_of_ended (.panic p) hb e).1]
        exact lost_conclude_panic id p _

/-- **Run.**  Whatever is around a transaction whose body fails, what comes out is what the rollback of that
transaction makes of the failure. -/
theorem FailsWithin.undone {left : Host σ} {n : Nat} {x : Act σ α}
    (hx : FailsWithin s id f left n x h) (hs : (left.context id).Sound) :
    (x h).Undone f (s.rollback id left) := by
  induction hx with
  | innermost hb ho hl =>
      obtain ⟨hout, hhost⟩ := withTransaction_of_ended (.failure f) hb ho
      subst hl
      exact (conclude_failure id f _).of_eq hout hhost
  | around hb _ ih => exact withTransaction_of_undone hb ih (level_of_rollback hs)
  | after hx _ ih =>
      rw [Act.bind_of_value hx]
      exact ih.of_eq rfl rfl
  | before _ k ih => exact ih.bind k

end Service

/-- **A failure keeps its code through transactions, and its class only if it is rolled back.**  In every
session, a transaction inside of any number of others whose body fails gives no value; what comes out of
the outermost one is the failure of the body if the rollback succeeds, and that failure together with the
rollback's if it does not.  The code is that of the failure in either case.  It counts as connectivity
exactly if the failure does and the rollback has succeeded: there was nothing left to roll back, or the
server has rolled back and has taken the connection.  Once the deadline has passed the rollback is not even
sent. -/
theorem failure_through_transactions {s : Service σ} {state : σ} {now : Instant} {j : List Entry}
    {id : String} {f : Failure} {n : Nat} {x : Act σ α} {h left : Host σ}
    (hs : Session s (fun _ _ => True) (.fresh state now) j left)
    (hx : s.FailsWithin id f left n x h) :
    let undo := s.rollback id left
    (∀ a, (x h).outcome ≠ .value a) ∧
    (∀ g, (x h).outcome = .failure g ↔ undo.outcome = .value () ∧ g = f ∨
      ∃ r, undo.outcome = .failure r ∧ g = .rollbackFailed f r) ∧
    (∀ g, (x h).outcome = .failure g → g.code? = f.code? ∧
      (g.isConnectivity = true ↔ f.isConnectivity = true ∧ undo.outcome = .value ())) ∧
    (undo.outcome = .value () ↔ (left.context id).level = 0 ∨
      ∃ c t r, (left.context id).handle.conn? = some c ∧ undo.trips = [t, r] ∧
        t.call = .rollback c ∧ t.succeeded = true ∧ r.call = .release c ∧ r.succeeded = true) ∧
    ∀ d, (left.context id).deadline = some d → d ≤ left.now → 0 < (left.context id).level →
      left.now + s.settings.writeSecs * 1000 < Service.clockLimit →
      undo.outcome = .failure (.timeout "rollback" (min s.settings.writeSecs Service.secsLimit)) ∧
      ∃ c t, (left.context id).handle.conn? = some c ∧ undo.trips = [t] ∧ t.call = .discard c := by
  intro undo
  have hundone : (x h).Undone f undo := hx.undone (hs.sound id)
  refine ⟨hundone.ne_value, fun g => ?_, fun g hg => ?_, Service.rollback_eq_value_iff (hs.sound id),
    fun d hd hpast hl hclock => Service.rollback_of_late (hs.sound id) hl hd hpast hclock⟩
  · rw [hundone.outcome_eq_failure_iff, Failure.Passed.iff]
  · have hp := hundone.outcome_eq_failure_iff.mp hg
    exact ⟨hp.code?_eq, hp.isConnectivity_iff⟩

/-- Time goes by. -/
def Act.sleep (ms : Nat) : Act σ Unit := Act.modify fun h => { h with now := h.now + ms }

theorem Session.sleep {s : Service σ} {allowed : Operation → Host σ → Prop} {h₀ h : Host σ}
    {j : List Entry} (hs : Session s allowed h₀ j h) (ms : Nat) :
    Session s allowed h₀ j (Act.sleep ms h).host :=
  hs.outside rfl rfl

/-- A transaction in a transaction is entered after the deadline, and its statement times out.  The rollback
comes too late too, so that the connection is discarded. -/
theorem failure_through_transactions_late :
    let s := Service.obliging
    let select : Act Unit Unit := s.perform "a" ⟨.select, .text "q" false []⟩
    let body : Act Unit Unit := Act.sleep 2000 >>= fun _ => s.withTransaction "a" select
    let x := s.withTransaction "a" body
    let h := (s.replaceContext (.vacant "a" (some 1000)) (Host.fresh () 0)).host
    let left := (select (s.begin "a" (Act.sleep 2000 (s.begin "a" h).host).host).host).host
    let undo := s.rollback "a" left
    (∃ j, Session s (fun _ _ => True) (.fresh () 0) j left) ∧
    s.FailsWithin "a" (.timeout "select" 1) left 1 x h ∧
    (left.context "a").deadline = some 1000 ∧ left.now = 2000 ∧ (left.context "a").level = 2 ∧
    left.now + s.settings.writeSecs * 1000 < Service.clockLimit ∧
    (∀ a, (x h).outcome ≠ .value a) ∧
    (∀ g, (x h).outcome = .failure g ↔ undo.outcome = .value () ∧ g = .timeout "select" 1 ∨
      ∃ r, undo.outcome = .failure r ∧ g = .rollbackFailed (.timeout "select" 1) r) ∧
    ∃ c t, (left.context "a").handle.conn? = some c ∧ undo.trips = [t] ∧ t.call = .discard c := by
  intro s select body x h left undo
  have hstart : Session s (fun _ _ => True) (.fresh () 0) [] (.fresh () 0) := .start
  have hset := hstart.operation (.replace "a" (some 1000)) trivial
  have hslept := (hset.operation (.begin "a") trivial).sleep 2000
  obtain ⟨j, hfailed⟩ : ∃ j, Session s (fun _ _ => True) (.fresh () 0) j left :=
    ⟨_, (hslept.operation (.begin "a") trivial).operation
      (.statement "a" ⟨.select, .text "q" false []⟩) trivial⟩
  have hinner : s.FailsWithin "a" (.timeout "select" 1) left 0 (s.withTransaction "a" select)
      (Act.sleep 2000 (s.begin "a" h).host).host :=
    .innermost (by decide +kernel) (by decide +kernel) rfl
  have hwithin : s.FailsWithin "a" (.timeout "select" 1) left 1 x h :=
    .around (by decide +kernel) (.after (b := ()) rfl hinner)
  have hdeadline : (left.context "a").deadline = some 1000 := by decide +kernel
  have hnow : left.now = 2000 := by decide +kernel
  have hlevel : (left.context "a").level = 2 := by decide +kernel
  have hclock : left.now + s.settings.writeSecs * 1000 < Service.clockLimit := by
    rw [hnow]
    decide +kernel
  obtain ⟨hvalue, hfailure, -, -, hlate⟩ := failure_through_transactions hfailed hwithin
  exact ⟨⟨j, hfailed⟩, hwithin, hdeadline, hnow, hlevel, hclock, hvalue, hfailure,
    (hlate 1000 hdeadline (by rw [hnow]; decide) (by rw [hlevel]; decide) hclock).2⟩

/-- The statement of a transaction comes after the deadline and times out, and so does the rollback.  What
the transaction gives is no longer a failure of connectivity. -/
theorem late_rollback_hides_timeout :
    let s := Service.obliging
    let h := (Host.fresh () 0).put (.vacant "a" (some 1000))
    let body : Act Unit Unit := Act.sleep 2000 >>= fun _ => s.perform "a" ⟨.select, .text "q" false []⟩
    let late := Failure.timeout "select" 1
    let both := Failure.rollbackFailed late (.timeout "rollback" 1)
    (s.begin "a" h).outcome = .value () ∧ (body (s.begin "a" h).host).outcome = .failure late ∧
    (s.withTransaction "a" body h).outcome = .failure both ∧
    late.isConnectivity = true ∧ both.isConnectivity = false := by
  decide +kernel

end SqlSession
