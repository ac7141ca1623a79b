import SqlSession.Proofs.Transaction.Place

/-! # Bodies that go on after failures

A body may ignore that a statement or a transaction inside of it has failed, and go on.  Failures of
statements do no harm: all statements run on the connection of the outermost transaction, as long as no
transaction inside has failed (`Course`).  The first that fails rolls the whole transaction back; what a
body does after that is out of it, and runs on no connection or in transactions of its own
(`in_place_until_lost`). -/

namespace SqlSession

open RoundTrip (openAfter InPlace)

/-- The body of a transaction that may go on after failures. -/
inductive Plan where
  | done
  | statement (e : Errand) (ignores : Failure → Bool) (later : Plan)
  | transaction (inner : Plan) (ignores : Failure → Bool) (later : Plan)

/-- Does an act and ends in no failure that is ignored. -/
def Act.ignoring (ignores : Failure → Bool) (x : Act σ Unit) : Act σ Unit := do
  match ← Act.attempt x with
  | .ok _ => pure ()
  | .error f => if ignores f then pure () else Act.fail f

/-- The outcome of an act of which some failures are ignored. -/
def Outcome.ignoring (ignores : Failure → Bool) : Outcome Unit → Outcome Unit
  | failure f => if ignores f then value () else failure f
  | o => o

@[simp] theorem Act.trace_ignoring (ignores : Failure → Bool) (x : Act σ Unit) :
    (ignoring ignores x).trace = fun h => (x.trace h).withOutcome (Outcome.ignoring ignores) := by
  funext h
  simp only [ignoring, trace_bind, trace_attempt]
  rcases x.trace h with ⟨o, h', l⟩
  cases o with
  | failure f => cases hf : ignores f <;> simp [Outcome.attempted, Outcome.ignoring, hf]
  | _ => simp [Outcome.attempted, Outcome.ignoring]

/-- A failure is ignored, or everything stays what it is. -/
theorem Outcome.ignoring_cases (ignores : Failure → Bool) (o : Outcome Unit) :
    (o.ignoring ignores = .value () ∧ (o = .value () ∨ ∃ f, o = .failure f)) ∨
    (o.ignoring ignores = o ∧ o ≠ .value ()) := by
  cases o with
  | value a => exact .inl ⟨rfl, .inl rfl⟩
  | failure f =>
      cases hf : ignores f with
      | true => exact .inl ⟨by simp [ignoring, hf], .inr ⟨f, rfl⟩⟩
      | false => exact .inr ⟨by simp [ignoring, hf], nofun⟩
  | panic p => exact .inr ⟨rfl, nofun⟩
  | hang => exact .inr ⟨rfl, nofun⟩

/-- Runs a body on a context. -/
def Plan.act (s : Service σ) (id : String) : Plan → Act σ Unit
  | done => pure ()
  | statement e ignores later => do
    Act.ignoring ignores (s.perform id e)
    later.act s id
  | transaction inner ignores later => do
    Act.ignoring ignores (s.withTransaction id (inner.act s id))
    later.act s id

/-! ### The course of a body -/

/-- What has become of the transaction around a body. -/
inductive Verdict where
  /-- The body has ended, and no transaction inside has failed. -/
  | ended (e : Settled Unit)
  /-- A transaction inside has failed, and its failure has ended the body. -/
  | lost (o : Outcome Unit)
  /-- A transaction inside has failed, and its failure was ignored. -/
  | astray

section
variable (s : Service σ) (c : ConnId) (deadline : Option Instant)

/-- How a transaction fails whose body has made the round trips `l` from an instant on: by its own
rollback, or by that of a transaction inside. -/
inductive Fallen (now : Instant) (l : List RoundTrip) :
    Verdict → List RoundTrip → Outcome Unit → Prop
  | here {ended : Settled Unit} {tail : List RoundTrip} {o : Outcome Unit}
      (hf : ended.outcome.isFault = true)
      (hc : Concluded s c deadline (RoundTrip.lastLeft now l) ended tail o) :
      Fallen now l (.ended ended) (l ++ tail) o
  | before {o : Outcome Unit} : Fallen now l (.lost o) l o

/-- Round trips on `c` of a body from an instant on, up to its end or up to the rollback of a transaction
inside that has failed. -/
inductive Course : Instant → Plan → List RoundTrip → Verdict → Prop
  | done {now : Instant} : Course now .done [] (.ended (.value ()))
  | statement {now : Instant} {e : Errand} {ignores : Failure → Bool} {later : Plan}
      {ran l : List RoundTrip} {o : Outcome Unit} {v : Verdict}
      (hr : Reached s c deadline now [e] ran o) (ho : o.ignoring ignores = .value ())
      (hl : Course (RoundTrip.lastLeft now ran) later l v) :
      Course now (.statement e ignores later) (ran ++ l) v
  | stopped {now : Instant} {e : Errand} {ignores : Failure → Bool} {later : Plan}
      {ran : List RoundTrip} {ended : Settled Unit}
      (hr : Reached s c deadline now [e] ran ended.outcome)
      (ho : ended.outcome.ignoring ignores = ended.outcome) (hf : ended.outcome.isFault = true) :
      Course now (.statement e ignores later) ran (.ended ended)
  | transaction {now : Instant} {inner later : Plan} {ignores : Failure → Bool}
      {l m : List RoundTrip} {v : Verdict} (hi : Course now inner l (.ended (.value ())))
      (hl : Course (RoundTrip.lastLeft now l) later m v) :
      Course now (.transaction inner ignores later) (l ++ m) v
  | lost {now : Instant} {inner later : Plan} {ignores : Failure → Bool} {l m : List RoundTrip}
      {v : Verdict} {o : Outcome Unit} (hi : Course now inner l v)
      (hf : Fallen s c deadline now l v m o) (ho : o.ignoring ignores = o) :
      Course now (.transaction inner ignores later) m (.lost o)
  | astray {now : Instant} {inner later : Plan} {ignores : Failure → Bool} {l m : List RoundTrip}
      {v : Verdict} {o : Outcome Unit} (hi : Course now inner l v)
      (hf : Fallen s c deadline now l v m o) (ho : o.ignoring ignores = .value ()) :
      Course now (.transaction inner ignores later) m .astray
  | within {now : Instant} {inner later : Plan} {ignores : Failure → Bool} {l : List RoundTrip}
      (hi : Course now inner l .astray) : Course now (.transaction inner ignores later) l .astray

end

/-- A call on `c` that begins nothing. -/
def Call.Inside (c : ConnId) (call : Call) : Prop := call.conn? = some c ∧ ∀ d, call ≠ .begin d

theorem Call.inside_of_target {c : ConnId} {call : Call} (ht : call.target? = some (.conn c)) :
    call.Inside c := by
  cases call with
  | fetch target sql params =>
      obtain rfl : target = .conn c := by simpa [target?] using ht
      exact ⟨rfl, fun d hd => by cases hd⟩
  | execute target sql params =>
      obtain rfl : target = .conn c := by simpa [target?] using ht
      exact ⟨rfl, fun d hd => by cases hd⟩
  | _ => cases ht

theorem Errand.callOn_inside {c : ConnId} {e : Errand} {call : Call} (hc : e.callOn c = .ok call) :
    call.Inside c := by
  have hat : e.callAt (.conn c) = .ok call := hc
  exact Call.inside_of_target (callAt_target hat).2

section
variable {s : Service σ} {c : ConnId} {deadline : Option Instant} {now : Instant}

theorem Reached.inside {l : List Errand} {ts : List RoundTrip} {o : Outcome Unit}
    (hr : Reached s c deadline now l ts o) : ∀ t ∈ ts, t.call.Inside c := by
  induction hr with
  | all => exact List.forall_mem_nil _
  | next ht _ _ ih =>
      intro u hu
      rcases List.mem_cons.mp hu with rfl | hu
      · exact Errand.callOn_inside ht
      · exact ih u hu
  | stopped ht _ =>
      intro u hu
      obtain rfl := List.mem_singleton.mp hu
      exact Errand.callOn_inside ht
  | unsent => exact List.forall_mem_nil _

theorem Committing.inside {l : List RoundTrip} {o : Outcome Unit}
    (hc : Committing s c deadline now l o) : ∀ t ∈ l, t.call.Inside c := by
  cases hc with
  | unsent => exact List.forall_mem_nil _
  | refused ht => simp [ht, Call.Inside, Call.conn?]
  | released ht _ hr => simp [ht, hr, Call.Inside, Call.conn?]

theorem RollingBack.inside {l : List RoundTrip} {o : Outcome Unit}
    (hr : RollingBack s c deadline now l o) : ∀ t ∈ l, t.call.Inside c := by
  cases hr with
  | late hd => simp [hd, Call.Inside, Call.conn?]
  | refused ht _ hd => simp [ht, hd, Call.Inside, Call.conn?]
  | released ht _ hr => simp [ht, hr, Call.Inside, Call.conn?]
  | clock => exact List.forall_mem_nil _

theorem Concluded.inside {ended : Settled Unit} {l : List RoundTrip} {o : Outcome Unit}
    (hc : Concluded s c deadline now ended l o) : ∀ t ∈ l, t.call.Inside c := by
  cases hc with
  | commit h => exact h.inside
  | failure _ h => exact h.inside
  | panic _ h => exact h.inside

theorem Fallen.inside {l m : List RoundTrip} {v : Verdict} {o : Outcome Unit}
    (hf : Fallen s c deadline now l v m o) (hl : ∀ t ∈ l, t.call.Inside c) :
    ∀ t ∈ m, t.call.Inside c := by
  cases hf with
  | here _ hc =>
      intro t ht
      exact (List.mem_append.mp ht).elim (hl t) (hc.inside t)
  | before => exact hl

/-- The course of a body is on the connection of its transaction. -/
theorem Course.inside {b : Plan} {l : List RoundTrip} {v : Verdict}
    (hc : Course s c deadline now b l v) : ∀ t ∈ l, t.call.Inside c := by
  induction hc with
  | done => exact List.forall_mem_nil _
  | statement hr _ _ ih =>
      intro t ht
      exact (List.mem_append.mp ht).elim (hr.inside t) (ih t)
  | stopped hr => exact hr.inside
  | transaction _ _ ihi ihl =>
      intro t ht
      exact (List.mem_append.mp ht).elim (ihi t) (ihl t)
  | lost _ hf _ ih => exact hf.inside ih
  | astray _ hf _ ih => exact hf.inside ih
  | within _ ih => exact ih

/-- Whether a body ignores no failure of a transaction. -/
def Plan.Strict : Plan → Prop
  | .done => True
  | .statement _ _ later => later.Strict
  | .transaction inner ignores later => inner.Strict ∧ (∀ f, ignores f = false) ∧ later.Strict

theorem Fallen.ne_value {l m : List RoundTrip} {v : Verdict} {o : Outcome Unit}
    (hf : Fallen s c deadline now l v m o) (hv : ∀ {o}, v = .lost o → o ≠ .value ()) :
    o ≠ .value () := by
  cases hf with
  | here hfault hc =>
      rintro rfl
      rw [hc.of_value.1] at hfault
      cases hfault
  | before => exact hv rfl

theorem Course.lost_ne_value {b : Plan} {l : List RoundTrip} {v : Verdict}
    (hc : Course s c deadline now b l v) : ∀ {o}, v = .lost o → o ≠ .value () := by
  induction hc with
  | done => exact nofun
  | statement _ _ _ ih => exact ih
  | stopped => exact nofun
  | transaction _ _ _ ihl => exact ihl
  | lost _ hf _ ih =>
      rintro o ⟨⟩
      exact hf.ne_value ih
  | astray => exact nofun
  | within => exact nofun

/-- A body that ignores failures of statements only never goes astray. -/
theorem Course.ne_astray {b : Plan} {l : List RoundTrip} {v : Verdict}
    (hc : Course s c deadline now b l v) (hb : b.Strict) : v ≠ .astray := by
  induction hc with
  | done => exact nofun
  | statement _ _ _ ih => exact ih hb
  | stopped => exact nofun
  | transaction _ _ _ ihl => exact ihl hb.2.2
  | lost => exact nofun
  | @astray _ inner later ignores l m v o hi hf ho =>
      have hne : o ≠ .value () := hf.ne_value hi.lost_ne_value
      cases o with
      | failure f => simp [Outcome.ignoring, hb.2.1 f] at ho
      | value a => exact absurd rfl hne
      | panic p => cases ho
      | hang => cases ho
  | within _ ih => exact ih hb.1

end

/-! ### Runs of a body -/

/-- A server of which no call panics. -/
def Server.NoPanic (server : Server σ) : Prop :=
  ∀ state call p, (server.react state call).1.ending ≠ .panic p

theorem Server.NoPanic.calmRollback {server : Server σ} (hs : server.NoPanic) : server.CalmRollback :=
  fun state c => hs state (.rollback c)

theorem Server.NoPanic.not_pingPanics {server : Server σ} (hs : server.NoPanic) :
    ¬ server.PingPanics := fun ⟨state, c, p, hp⟩ => hs state (.ping c) p hp

/-- What a transaction that has failed with `o` leaves: nothing to do for the transactions around it,
and nothing in the context if its failure can be ignored. -/
structure LeavesNothing (s : Service σ) (id : String) (c : ConnId) (o : Outcome Unit) (h : Host σ) :
    Prop where
  ne_value : o ≠ .value ()
  resting : Service.Resting s id h o
  between : ∀ f, o = .failure f → (h.context id).handle = .detached ∧ h.Between id c

/-- What is left of a run of a body, on a context with a transaction of level `n + 1`, when the round
trips of its course, which are over at an instant, are taken away. -/
inductive Fits (s : Service σ) (id : String) (c : ConnId) (n : Nat) (deadline : Option Instant)
    (now : Instant) : Verdict → Trace σ Unit → Prop
  | ended {e : Settled Unit} {h : Host σ} (ho : h.context id = .opened id c (n + 1) deadline)
      (hc : c ≤ h.handedOut) (hn : h.now = now) :
      Fits s id c n deadline now (.ended e) ⟨e.outcome, h, []⟩
  | lost {o : Outcome Unit} {h : Host σ} (hl : LeavesNothing s id c o h) :
      Fits s id c n deadline now (.lost o) ⟨o, h, []⟩
  | astray {t : Trace σ Unit} (ht : t.Orderly id c none) : Fits s id c n deadline now .astray t

/-- The run of a body follows a course from an instant on, and what is left of it fits the verdict. -/
def Follows (s : Service σ) (id : String) (c : ConnId) (n : Nat) (deadline : Option Instant) (b : Plan)
    (now : Instant) (run : Trace σ Unit) : Prop :=
  ∃ l v t, Course s c deadline now b l v ∧ run = t.after l ∧
    Fits s id c n deadline (RoundTrip.lastLeft now l) v t

namespace Service

variable {s : Service σ} {id : String} {c : ConnId} {deadline : Option Instant} {h : Host σ} {n : Nat}

theorem proper_ignoring {x : Act σ Unit} (ignores : Failure → Bool) (hx : x.Proper id) :
    (Act.ignoring ignores x).Proper id := by
  intro m h hb
  rw [Act.trace_ignoring]
  exact (hx m h hb).withOutcome _

theorem proper_plan (hs : s.server.NoPanic) : ∀ b : Plan, (b.act s id).Proper id
  | .done => .pure ()
  | .statement e ignores later =>
      .bind (proper_ignoring ignores (proper_perform e)) fun _ => proper_plan hs later
  | .transaction inner ignores later =>
      .bind (proper_ignoring ignores (proper_withTransaction hs.not_pingPanics hs.calmRollback
        (proper_plan hs inner))) fun _ => proper_plan hs later

/-- A body follows its course if what comes after its first statement does. -/
theorem follows_statement (e : Errand) (ignores : Failure → Bool) {later : Plan}
    (ho : h.context id = .opened id c (n + 1) deadline) (hc : c ≤ h.handedOut)
    (hl : ∀ {h' : Host σ}, h'.context id = .opened id c (n + 1) deadline → c ≤ h'.handedOut →
      Follows s id c n deadline later h'.now ((later.act s id).trace h')) :
    Follows s id c n deadline (.statement e ignores later) h.now
      (((Plan.statement e ignores later).act s id).trace h) := by
  have hconn : (h.context id).handle.conn? = some c := by rw [ho]; rfl
  have hdead : (h.context id).deadline = deadline := by rw [ho]; rfl
  have hsound : (h.context id).Sound := by rw [ho]; exact Context.sound_opened id c n deadline
  have hctx := (s.aloof_runOn c deadline e).context_eq h id
  obtain ⟨hreach, hover⟩ := s.runAllOn_reached c deadline [e] h
  have hkeeps : KeepsOn False id (s.perform id e) := keeps_perform e
  have hmore := hkeeps.handedOut_le hsound
  simp only [runAllOn, Act.trace_bind, Act.trace_pure, Trace.andThen_pure] at hreach hover
  rw [trace_perform hdead hconn] at hmore
  simp only [Plan.act, Act.trace_bind, Act.trace_ignoring, trace_perform hdead hconn]
  rcases hrun : (s.runOn c deadline e).trace h with ⟨o, h', ran⟩
  rw [hrun] at hreach hover hctx hmore
  have hopen : h'.context id = .opened id c (n + 1) deadline := hctx.trans ho
  have hc' : c ≤ h'.handedOut := Nat.le_trans hc hmore
  rcases o.ignoring_cases ignores with ⟨hgo, _⟩ | ⟨hstop, hne⟩
  · obtain ⟨l, v, t, hcourse, hrun', hfits⟩ := hl hopen hc'
    rw [hover] at hcourse hfits
    rw [← RoundTrip.lastLeft_append] at hfits
    refine ⟨ran ++ l, v, t, .statement hreach hgo hcourse, ?_, hfits⟩
    rw [Trace.withOutcome_mk, hgo, Trace.andThen_value, hrun', Trace.after_after]
  · obtain ⟨ended, rfl⟩ := Outcome.exists_settled hreach.ne_hang
    have hfault : ended.outcome.isFault = true := by
      cases ended with
      | value a => exact absurd rfl hne
      | _ => rfl
    refine ⟨ran, .ended ended, ⟨ended.outcome, h', []⟩, .stopped hreach hstop hfault, ?_,
      .ended hopen hc' hover⟩
    rw [Trace.withOutcome_mk, hstop, Trace.after_mk, List.append_nil]
    cases ended with
    | value a => exact absurd rfl hne
    | _ => rfl

/-! ### Transactions inside -/

/-- How a transaction inside of another one ends: it has only counted, it has failed, or it has gone
astray. -/
inductive Inner (s : Service σ) (id : String) (c : ConnId) (n : Nat) (deadline : Option Instant)
    (b : Plan) (now : Instant) : Trace σ Unit → Prop
  | counted {l : List RoundTrip} {h : Host σ} (hl : Course s c deadline now b l (.ended (.value ())))
      (ho : h.context id = .opened id c (n + 1) deadline) (hc : c ≤ h.handedOut)
      (hn : h.now = RoundTrip.lastLeft now l) : Inner s id c n deadline b now ⟨.value (), h, l⟩
  | failed {l m : List RoundTrip} {v : Verdict} {o : Outcome Unit} {h : Host σ}
      (hl : Course s c deadline now b l v) (hf : Fallen s c deadline now l v m o)
      (hn : LeavesNothing s id c o h) : Inner s id c n deadline b now ⟨o, h, m⟩
  | astray {l : List RoundTrip} {t : Trace σ Unit} (hl : Course s c deadline now b l .astray)
      (ht : t.Orderly id c none) : Inner s id c n deadline b now (t.after l)

/-- After a fault the end of a transaction leaves nothing. -/
theorem conclude_leavesNothing (hs : s.server.CalmRollback)
    (ho : h.context id = .opened id c (n + 1) deadline) (hc : c ≤ h.handedOut) (ended : Settled Unit)
    (hf : ended.outcome.isFault = true) :
    LeavesNothing s id c ((s.conclude id ended).trace h).outcome ((s.conclude id ended).trace h).host ∧
    Concluded s c deadline h.now ended ((s.conclude id ended).trace h).trips
      ((s.conclude id ended).trace h).outcome := by
  have hsound : (h.context id).Sound := by rw [ho]; exact Context.sound_opened id c n deadline
  have hkeeps : KeepsOn False id (s.conclude id ended) := keeps_conclude ended
  have hmore := hkeeps.handedOut_le hsound
  obtain ⟨h', hend, hleft, hrest⟩ := trace_conclude_of_fault hs ho ended hf
  have hcon := s.concludeOn_concluded c deadline hs h ended
  rw [hend] at hmore ⊢
  refine ⟨⟨concludeOn_ne_value hf, hrest, fun f hfail => ?_⟩, hcon⟩
  rcases hleft with hvacant | ⟨_, hclock⟩
  · exact ⟨by rw [hvacant]; rfl, .of_vacant hvacant (Nat.le_trans hc hmore)⟩
  · rw [hclock] at hfail
    cases hfail

theorem withTransaction_inner (hs : s.server.NoPanic)
    (ho : h.context id = .opened id c (n + 1) deadline) {b : Plan}
    (hb : Follows s id c (n + 1) deadline b h.now
      ((b.act s id).trace (h.put (.opened id c (n + 2) deadline)))) :
    Inner s id c n deadline b h.now ((s.withTransaction id (b.act s id)).trace h) := by
  rw [trace_withTransaction]
  obtain ⟨l, v, t, hcourse, hrun, hfits⟩ := hb
  simp only [trace_begin_of_open ho, Trace.andThen_value, Trace.after_nil, hrun]
  cases hfits with
  | @ended e h' ho' hc' hn' =>
      by_cases hf : e.outcome.isFault = true
      · obtain ⟨hnothing, hcon⟩ := conclude_leavesNothing hs.calmRollback ho' hc' e hf
        rw [hn'] at hcon
        rw [Trace.after_mk, List.append_nil, Trace.withOutcome_mk, Settled.settled_outcome,
          Trace.andThen_value]
        exact .failed hcourse (.here hf hcon) hnothing
      · cases e with
        | value a =>
            have hback : (h'.put (.opened id c (n + 1) deadline)).context id =
                .opened id c (n + 1) deadline := Host.context_put rfl
            simp only [Trace.after_mk, Trace.withOutcome_mk, Settled.settled_outcome,
              Trace.andThen_value, trace_conclude_value, trace_commit_of_nested ho', List.append_nil]
            exact .counted hcourse hback hc' hn'
        | failure f => exact absurd rfl hf
        | panic p => exact absurd rfl hf
  | lost hl =>
      rw [Trace.after_mk, hl.resting.conclude, List.append_nil]
      exact .failed hcourse .before hl
  | astray ht =>
      have hend : ((t.withOutcome Outcome.settled).andThen fun e => (s.conclude id e).trace).Orderly id c
          none := (ht.withOutcome _).andThen fun e => proper_conclude hs.calmRollback e c _ ht.between
      rw [Trace.withOutcome_after, Trace.andThen_after]
      exact .astray hcourse hend

/-- A body follows its course if the transaction that it starts with ends in one of the ways in which it
may, and what comes after it follows its course. -/
theorem follows_transaction (hs : s.server.NoPanic) (ignores : Failure → Bool) {inner later : Plan}
    (hi : Inner s id c n deadline inner h.now ((s.withTransaction id (inner.act s id)).trace h))
    (hl : ∀ {h' : Host σ}, h'.context id = .opened id c (n + 1) deadline → c ≤ h'.handedOut →
      Follows s id c n deadline later h'.now ((later.act s id).trace h')) :
    Follows s id c n deadline (.transaction inner ignores later) h.now
      (((Plan.transaction inner ignores later).act s id).trace h) := by
  simp only [Plan.act, Act.trace_bind, Act.trace_ignoring]
  generalize (s.withTransaction id (inner.act s id)).trace h = run at hi ⊢
  cases hi with
  | @counted l h' hcourse ho hc hn =>
      obtain ⟨m, v, t, hlater, hrun, hfits⟩ := hl ho hc
      rw [hn] at hlater hfits
      rw [← RoundTrip.lastLeft_append] at hfits
      refine ⟨l ++ m, v, t, .transaction hcourse hlater, ?_, hfits⟩
      rw [Trace.withOutcome_mk, Outcome.ignoring, Trace.andThen_value, hrun, Trace.after_after]
      exact nofun
  | @failed l m v o h' hcourse hfallen hnothing =>
      rcases o.ignoring_cases ignores with ⟨hgo, rfl | ⟨f, rfl⟩⟩ | ⟨hstop, hne⟩
      · exact absurd rfl hnothing.ne_value
      · obtain ⟨hdetached, hbetween⟩ := hnothing.between f rfl
        refine ⟨m, .astray, (later.act s id).trace h', .astray hcourse hfallen hgo, ?_, .astray ?_⟩
        · rw [Trace.withOutcome_mk, hgo, Trace.andThen_value]
        · have hlater := proper_plan hs later c h' hbetween
          rwa [hdetached] at hlater
      · refine ⟨m, .lost o, ⟨o, h', []⟩, .lost hcourse hfallen hstop, ?_, .lost hnothing⟩
        rw [Trace.withOutcome_mk, hstop, Trace.after_mk, List.append_nil]
        cases o with
        | value a => exact absurd rfl hne
        | _ => rfl
  | @astray l t hcourse ht =>
      refine ⟨l, .astray, (t.withOutcome (Outcome.ignoring ignores)).andThen
        fun _ => (later.act s id).trace, .within hcourse, ?_, .astray ?_⟩
      · rw [Trace.withOutcome_after, Trace.andThen_after]
      · exact (ht.withOutcome _).andThen fun _ => proper_plan hs later c _ ht.between

/-- **Bodies follow their courses.**  On a context with a transaction of any level, a body makes the
round trips of a course; those after it, if any, belong to a body that has gone astray. -/
theorem plan_follows (hs : s.server.NoPanic) : ∀ (b : Plan) {h : Host σ} {n : Nat},
    h.context id = .opened id c (n + 1) deadline → c ≤ h.handedOut →
    Follows s id c n deadline b h.now ((b.act s id).trace h)
  | .done, h, n, ho, hc => ⟨[], .ended (.value ()), _, .done, rfl, .ended ho hc rfl⟩
  | .statement e ignores later, h, n, ho, hc =>
      follows_statement e ignores ho hc (plan_follows hs later)
  | .transaction inner ignores later, h, n, ho, hc => by
      have hinner := plan_follows hs inner (h := h.put (.opened id c (n + 2) deadline)) (n := n + 1)
        (Host.context_put rfl) hc
      exact follows_transaction hs ignores (withTransaction_inner hs ho hinner) (plan_follows hs later)

/-! ### The outermost transaction -/

/-- What comes after the course of the body of the outermost transaction, which is over at an instant: its
end on `c`, nothing, or what a body does that has gone astray. -/
inductive Aftermath (s : Service σ) (c : ConnId) (deadline : Option Instant) (now : Instant) :
    Verdict → List RoundTrip → Outcome Unit → Prop
  | ended {e : Settled Unit} {rest : List RoundTrip} {o : Outcome Unit}
      (hc : Concluded s c deadline now e rest o) : Aftermath s c deadline now (.ended e) rest o
  | lost {o : Outcome Unit} (hne : o ≠ .value ()) : Aftermath s c deadline now (.lost o) [] o
  | astray {rest : List RoundTrip} {o : Outcome Unit} (hin : InPlace none rest)
      (hoff : ∀ t ∈ rest, t.call.conn? ≠ some c) : Aftermath s c deadline now .astray rest o

theorem Aftermath.inside {now : Instant} {v : Verdict} {rest : List RoundTrip} {o : Outcome Unit}
    (ha : Aftermath s c deadline now v rest o) (hv : v ≠ .astray) : ∀ t ∈ rest, t.call.Inside c := by
  cases ha with
  | ended hc => exact hc.inside
  | lost => exact List.forall_mem_nil _
  | astray => exact absurd rfl hv

/-- A begin hands out its connection before it opens a transaction on it. -/
theorem begin_handedOut {h' : Host σ} {l : List RoundTrip} (hs : s.server.NoPanic)
    (ho : h.context id = .vacant id deadline) (hbegin : (s.begin id).trace h = ⟨.value (), h', l⟩)
    (hopen : h'.context id = .opened id c 1 deadline) : c ≤ h'.handedOut := by
  have hbetween : h.Between id 0 := .of_vacant ho (Nat.zero_le _)
  have hproper := proper_begin hs.not_pingPanics 0 h hbetween
  rw [hbegin] at hproper
  exact (hproper.between.after.2 c (by rw [hopen]; rfl)).2

/-- The body of the outermost transaction follows its course, and the aftermath fits the verdict. -/
theorem outermost_follows (hs : s.server.NoPanic) (b : Plan)
    (ho : h.context id = .opened id c 1 deadline) (hc : c ≤ h.handedOut) :
    ∃ (l : List RoundTrip) (v : Verdict) (t : Trace σ Unit), Course s c deadline h.now b l v ∧
      (((b.act s id).trace h).withOutcome Outcome.settled).andThen
        (fun e => (s.conclude id e).trace) = t.after l ∧
      Aftermath s c deadline (RoundTrip.lastLeft h.now l) v t.trips t.outcome := by
  obtain ⟨l, v, t, hcourse, hrun, hfits⟩ := plan_follows hs b ho hc
  rw [hrun]
  cases hfits with
  | @ended e h' ho' hc' hn' =>
      have hcon := s.concludeOn_concluded c deadline hs.calmRollback h' e
      rw [hn'] at hcon
      obtain ⟨h'', hend, _⟩ := trace_conclude_of_outer hs.calmRollback ho' e
      refine ⟨l, .ended e, (s.conclude id e).trace h', hcourse, ?_, ?_⟩
      · rw [Trace.after_mk, List.append_nil, Trace.withOutcome_mk, Settled.settled_outcome,
          Trace.andThen_value]
      · rw [hend]
        exact .ended hcon
  | @lost o h' hl =>
      refine ⟨l, .lost o, ⟨o, h', []⟩, hcourse, ?_, .lost hl.ne_value⟩
      rw [Trace.after_mk, hl.resting.conclude]
  | astray ht =>
      have hend : ((t.withOutcome Outcome.settled).andThen fun e => (s.conclude id e).trace).Orderly id c
          none := (ht.withOutcome _).andThen fun e => proper_conclude hs.calmRollback e c _ ht.between
      refine ⟨l, .astray, _, hcourse, ?_, .astray hend.inPlace fun u hu hu' => ?_⟩
      · rw [Trace.withOutcome_after, Trace.andThen_after]
      · exact absurd (hend.later u hu c hu') (Nat.lt_irrefl c)

/-- **Statements are in place until a transaction is lost.**  A transaction on a context that holds
nothing fails with its begin, and makes no statement, or begins on `c`.  Its body then makes round trips
on `c`, up to its end or up to the rollback of the first transaction inside that fails.  If no body goes on
after that, and none does that ignores no failure of a transaction, all round trips are on `c`, and no other
transaction is begun.  If one does, what it does is not on `c`: its statements run in the transaction that is
open when they come, or on no connection if none is. -/
theorem in_place_until_lost (hs : s.server.NoPanic) (ho : h.context id = .vacant id deadline)
    (b : Plan) :
    let begun := (s.begin id).trace h
    let whole := (s.withTransaction id (b.act s id)).trace h
    (∀ t ∈ begun.trips, t.call.target? = none) ∧
    ((begun.outcome ≠ .value () ∧ whole.outcome ≠ .value () ∧ whole.trips = begun.trips) ∨
    ∃ c before t l v rest, begun.trips = before ++ [t] ∧ t.call = .begin c ∧ t.succeeded = true ∧
      whole.trips = begun.trips ++ l ++ rest ∧ Course s c deadline begun.host.now b l v ∧
      (∀ u ∈ l, u.call.Inside c) ∧
      Aftermath s c deadline (RoundTrip.lastLeft begun.host.now l) v rest whole.outcome ∧
      (v ≠ .astray → ∀ u ∈ rest, u.call.Inside c) ∧ (b.Strict → v ≠ .astray)) := by
  intro begun whole
  have hwhole : whole = begun.andThen fun _ h =>
      (((b.act s id).trace h).withOutcome Outcome.settled).andThen fun e => (s.conclude id e).trace := by
    simp only [whole, trace_withTransaction, begun]
  refine ⟨begin_makes_no_statement h, ?_⟩
  rcases begin_of_vacant (s := s) ho with ⟨c, before, t, h', ht, hts, hopen, hbegin⟩ | ⟨hne, _⟩
  · right
    have hc := begin_handedOut hs ho hbegin hopen
    obtain ⟨l, v, rest, hcourse, hrun, hafter⟩ := outermost_follows hs b hopen hc
    have hbegun : begun = ⟨.value (), h', before ++ [t]⟩ := hbegin
    rw [hbegun, Trace.andThen_value, hrun] at hwhole
    have hbhost : begun.host = h' := by rw [hbegun]
    rw [hbhost]
    refine ⟨c, before, t, l, v, rest.trips, by rw [hbegun], ht, hts, ?_, hcourse, hcourse.inside, ?_,
      hafter.inside, hcourse.ne_astray⟩
    · simp only [hwhole, hbegun, Trace.trips_after, List.append_assoc]
    · rw [hwhole]
      exact hafter
  · left
    have hstop : whole.outcome ≠ .value () ∧ whole.trips = begun.trips := by
      rw [hwhole]
      change begun.outcome ≠ .value () at hne
      rcases begun with ⟨o, h', l⟩
      cases o with
      | value a => exact absurd rfl hne
      | _ => exact ⟨nofun, rfl⟩
    exact ⟨hne, hstop⟩

/-- A service whose server refuses every read. -/
def writeOnly : Service Unit := .plain fun
  | .fetch .. => .failure (.database "write only" none "")
  | _ => .reply .done

theorem writeOnly_noPanic : writeOnly.server.NoPanic := by
  intro state call p
  cases call <;> exact nofun

/-- A read in a transaction of its own, whose failure is ignored, and a write after that. -/
def Plan.readOrNot : Plan :=
  .transaction (.statement ⟨.select, .text "q" false []⟩ (fun _ => false) .done) (fun _ => true)
    (.statement ⟨.execute, .text "w" false []⟩ (fun _ => false) .done)

/-- The write goes on after the rollback.  It runs on no connection and succeeds, and the outermost
transaction fails. -/
theorem readOrNot_writes_oneShot :
    let whole := (writeOnly.withTransaction "a" (Plan.readOrNot.act writeOnly "a")).trace (.fresh () 0)
    writeOnly.server.NoPanic ∧ (Host.fresh () 0).context "a" = .vacant "a" none ∧
    whole.outcome = .failure (.transaction "commit called without a matching begin" "a") ∧
    whole.trips.map RoundTrip.call = [.acquire, .ping 1, .begin 1, .fetch (.conn 1) "q" [], .rollback 1,
      .release 1, .execute .oneShot "w" []] ∧
    ∃ t, whole.trips.getLast? = some t ∧ t.succeeded = true := by
  refine ⟨writeOnly_noPanic, rfl, by decide +kernel, by rfl, ?_⟩
  exact ⟨_, rfl, rfl⟩

/-- The course of that body ends with the rollback of the read, and the write comes after it. -/
theorem in_place_until_lost_readOrNot :
    let h := Host.fresh () 0
    let begun := (writeOnly.begin "a").trace h
    let whole := (writeOnly.withTransaction "a" (Plan.readOrNot.act writeOnly "a")).trace h
    writeOnly.server.NoPanic ∧ h.context "a" = .vacant "a" none ∧
    (∀ t ∈ begun.trips, t.call.target? = none) ∧
    ((begun.outcome ≠ .value () ∧ whole.outcome ≠ .value () ∧ whole.trips = begun.trips) ∨
    ∃ c before t l v rest, begun.trips = before ++ [t] ∧ t.call = .begin c ∧ t.succeeded = true ∧
      whole.trips = begun.trips ++ l ++ rest ∧
      Course writeOnly c none begun.host.now Plan.readOrNot l v ∧ (∀ u ∈ l, u.call.Inside c) ∧
      Aftermath writeOnly c none (RoundTrip.lastLeft begun.host.now l) v rest whole.outcome ∧
      (v ≠ .astray → ∀ u ∈ rest, u.call.Inside c) ∧ (Plan.readOrNot.Strict → v ≠ .astray)) :=
  ⟨writeOnly_noPanic, rfl, in_place_until_lost writeOnly_noPanic rfl Plan.readOrNot⟩

end Service

end SqlSession
