import SqlSession.Proofs.Transaction.Open

/-! # Nested transactions

A body is a finite tree of statements and transactions, all on one context; it stops at its first
fault.  Whatever its shape, the outermost transaction makes the calls of the flat transaction of its
statements (`withTransaction_of_begun`): inner begins and commits only count, and the rollback that an
inner fault brings about ends the whole transaction, so that the rollbacks around it find nothing left
to do.  `nested_calls_flat` spells the calls out. -/

namespace SqlSession

/-- The body of a transaction. -/
inductive Body where
  | done
  | statement (e : Errand) (later : Body)
  | transaction (inner later : Body)

namespace Body

/-- The statements of a body in the order of the program. -/
def errands : Body → List Errand
  | done => []
  | statement e later => e :: later.errands
  | transaction inner later => inner.errands ++ later.errands

/-- Runs a body on a context. -/
def act (s : Service σ) (id : String) : Body → Act σ Unit
  | done => pure ()
  | statement e later => do
    s.perform id e
    later.act s id
  | transaction inner later => do
    s.withTransaction id (inner.act s id)
    later.act s id

end Body

namespace Service

variable {s : Service σ} {id : String} {c : ConnId} {deadline : Option Instant} {h : Host σ}

/-! ### The simulation -/

/-- A run whose fault has rolled back the whole transaction: it is the flat run with the end of the
transaction after it. -/
structure Collapsed (s : Service σ) (id : String) (c : ConnId) (deadline : Option Instant)
    (flat run : Trace σ Unit) (ended : Settled Unit) : Prop where
  outcome_flat : flat.outcome = ended.outcome
  isFault : ended.outcome.isFault = true
  outcome_eq : run.outcome = ((s.concludeOn c deadline ended).trace flat.host).outcome
  trips_eq : run.trips = flat.trips ++ ((s.concludeOn c deadline ended).trace flat.host).trips
  closing : Closing id c deadline ((s.concludeOn c deadline ended).trace flat.host) run.host
  resting : Resting s id run.host run.outcome

namespace Collapsed

variable {flat run : Trace σ Unit} {ended : Settled Unit}

theorem after (hc : Collapsed s id c deadline flat run ended) (l : List RoundTrip) :
    Collapsed s id c deadline (flat.after l) (run.after l) ended where
  outcome_flat := hc.outcome_flat
  isFault := hc.isFault
  outcome_eq := hc.outcome_eq
  trips_eq := by simp only [Trace.trips_after, Trace.host_after, hc.trips_eq, List.append_assoc]
  closing := hc.closing
  resting := hc.resting

theorem andThen (hc : Collapsed s id c deadline flat run ended)
    (k m : Unit → Host σ → Trace σ Unit) :
    Collapsed s id c deadline (flat.andThen k) (run.andThen m) ended := by
  have hflat : flat.andThen k = flat := by
    have hf := hc.isFault
    obtain ⟨o, h, l⟩ := flat
    rw [← hc.outcome_flat] at hf
    cases o with
    | value a => simp [Outcome.isFault] at hf
    | _ => rfl
  have hrun : run.andThen m = run := by
    have hv : run.outcome ≠ .value () := by
      rw [hc.outcome_eq]
      exact concludeOn_ne_value hc.isFault
    obtain ⟨o, h, l⟩ := run
    cases o with
    | value a => exact absurd rfl hv
    | _ => rfl
  rw [hflat, hrun]
  exact hc

theorem conclude (hc : Collapsed s id c deadline flat run ended) :
    (run.withOutcome Outcome.settled).andThen (fun e => (s.conclude id e).trace) = run :=
  hc.resting.conclude

theorem of_put {x : Context} {o : Outcome Unit} {l : List RoundTrip}
    (hc : Collapsed s id c deadline ⟨o, h.put x, l⟩ run ended) :
    Collapsed s id c deadline ⟨o, h, l⟩ run ended where
  outcome_flat := hc.outcome_flat
  isFault := hc.isFault
  outcome_eq := by
    rw [hc.outcome_eq, (s.aloof_concludeOn c deadline ended).trace_put]
  trips_eq := by
    rw [hc.trips_eq, (s.aloof_concludeOn c deadline ended).trace_put]
  closing := by
    have hcl := hc.closing
    rw [(s.aloof_concludeOn c deadline ended).trace_put] at hcl
    exact hcl
  resting := hc.resting

end Collapsed

/-- A run on a context that has a transaction keeps step with a flat run, or has collapsed. -/
def KeepsStep (s : Service σ) (id : String) (c : ConnId) (deadline : Option Instant)
    (flat run : Trace σ Unit) : Prop :=
  run = flat ∨ ∃ ended, Collapsed s id c deadline flat run ended

namespace KeepsStep

theorem after {flat run : Trace σ Unit} (l : List RoundTrip) :
    KeepsStep s id c deadline flat run → KeepsStep s id c deadline (flat.after l) (run.after l)
  | .inl hsame => .inl (by rw [hsame])
  | .inr ⟨ended, hcol⟩ => .inr ⟨ended, hcol.after l⟩

theorem andThen {start : Trace σ Unit} {k m : Unit → Host σ → Trace σ Unit}
    (hk : ∀ a, KeepsStep s id c deadline (k a start.host) (m a start.host)) :
    KeepsStep s id c deadline (start.andThen k) (start.andThen m) := by
  obtain ⟨o, h, l⟩ := start
  cases o with
  | value a => exact (hk a).after l
  | _ => exact .inl rfl

end KeepsStep

theorem trace_withTransaction (id : String) (x : Act σ Unit) : (s.withTransaction id x).trace =
    fun h => ((s.begin id).trace h).andThen fun _ h =>
      ((x.trace h).withOutcome Outcome.settled).andThen fun e => (s.conclude id e).trace := by
  simp [withTransaction]

/-- A transaction inside of another one keeps step if its body does. -/
theorem withTransaction_keepsStep {n : Nat} (hs : s.server.CalmRollback)
    (ho : h.context id = .opened id c (n + 1) deadline) {b : Body}
    (hb : KeepsStep s id c deadline
      ((s.runAllOn c deadline b.errands).trace (h.put (.opened id c (n + 2) deadline)))
      ((b.act s id).trace (h.put (.opened id c (n + 2) deadline)))) :
    KeepsStep s id c deadline ((s.runAllOn c deadline b.errands).trace h)
      ((s.withTransaction id (b.act s id)).trace h) := by
  have haloof := s.aloof_runAllOn c deadline b.errands
  have hctx := haloof.context_eq h id
  have hhang := (s.runAllOn_reached c deadline b.errands h).1.ne_hang
  rw [haloof.trace_put] at hb
  rw [trace_withTransaction]
  simp only [trace_begin_of_open ho, Trace.andThen_value, Trace.after_nil]
  rcases hrun : (s.runAllOn c deadline b.errands).trace h with ⟨o, h', l⟩
  rw [hrun] at hb hctx hhang
  rcases hb with hsame | ⟨ended, hcol⟩
  · rw [hsame]
    have hopen : (h'.put (.opened id c (n + 2) deadline)).context id = .opened id c (n + 2) deadline :=
      Host.context_put rfl
    have hback : (h'.put (.opened id c (n + 2) deadline)).put (.opened id c (n + 1) deadline) = h' := by
      rw [Host.put_put (by rfl)]
      exact Host.put_context (hctx.trans ho) nofun
    have hfail : ∀ ended : Settled Unit, ended.outcome.isFault = true → o = ended.outcome →
        KeepsStep s id c deadline ⟨o, h', l⟩ ((s.conclude id ended).trace
          (h'.put (.opened id c (n + 2) deadline)) |>.after l) := by
      intro ended hf he
      obtain ⟨h'', hcon, hclose, hrest⟩ := trace_conclude_of_open hs hopen ended hf
      refine .inr ⟨ended, ?_⟩
      have hcol : Collapsed s id c deadline ⟨o, h'.put (.opened id c (n + 2) deadline), l⟩
          (((s.conclude id ended).trace (h'.put (.opened id c (n + 2) deadline))).after l) ended := by
        rw [hcon]
        exact ⟨he, hf, rfl, rfl, hclose, hrest⟩
      exact hcol.of_put
    cases o with
    | value a =>
        left
        simp [Outcome.settled, trace_conclude_value, trace_commit_of_nested hopen, hback]
    | failure f => exact hfail (.failure f) rfl rfl
    | panic p => exact hfail (.panic p) rfl rfl
    | hang => exact absurd rfl hhang
  · rw [hcol.conclude]
    exact .inr ⟨ended, hcol.of_put⟩

/-- **Bodies keep step.**  A body of any depth, on a context with a transaction of any level, is the flat
run of its statements, up to a fault that has rolled back the whole transaction. -/
theorem body_keepsStep (hs : s.server.CalmRollback) : ∀ (b : Body) {h : Host σ} {n : Nat},
    h.context id = .opened id c (n + 1) deadline →
    KeepsStep s id c deadline ((s.runAllOn c deadline b.errands).trace h) ((b.act s id).trace h)
  | .done, h, n, ho => .inl rfl
  | .statement e later, h, n, ho => by
      have hconn : (h.context id).handle.conn? = some c := by rw [ho]; rfl
      have hdead : (h.context id).deadline = deadline := by rw [ho]; rfl
      have hctx := (s.aloof_runOn c deadline e).context_eq h id
      simp only [Body.act, Body.errands, runAllOn, Act.trace_bind, trace_perform hdead hconn]
      exact .andThen fun _ => body_keepsStep hs later (hctx.trans ho)
  | .transaction inner later, h, n, ho => by
      have hin := withTransaction_keepsStep hs ho
        (body_keepsStep hs inner (h := h.put (.opened id c (n + 2) deadline)) (Host.context_put rfl))
      have hctx := (s.aloof_runAllOn c deadline inner.errands).context_eq h id
      simp only [Body.act, Body.errands, Act.trace_bind, runAllOn_append]
      rcases hin with hsame | ⟨ended, hcol⟩
      · rw [hsame]
        exact .andThen fun _ => body_keepsStep hs later (hctx.trans ho)
      · exact .inr ⟨ended, hcol.andThen _ _⟩

/-! ### The outermost transaction -/

/-- The outermost transaction, once begun, makes the calls of the flat transaction of its statements, and
leaves in the context what the end of that may leave. -/
theorem withTransaction_of_begun (hs : s.server.CalmRollback) {b : Body} {h' : Host σ}
    {l : List RoundTrip} (hbegun : (s.begin id).trace h = ⟨.value (), h', l⟩)
    (ho : h'.context id = .opened id c 1 deadline) :
    ∃ ran ended h'' last, (s.withTransaction id (b.act s id)).trace h =
      ⟨((s.flatTransaction c deadline b.errands).trace h').outcome, h'',
        l ++ ((s.flatTransaction c deadline b.errands).trace h').trips⟩ ∧
      ((s.flatTransaction c deadline b.errands).trace h').trips =
        ran ++ ((s.concludeOn c deadline ended).trace last).trips ∧
      ((s.flatTransaction c deadline b.errands).trace h').outcome =
        ((s.concludeOn c deadline ended).trace last).outcome ∧
      Reached s c deadline h'.now b.errands ran ended.outcome ∧
      last.now = RoundTrip.lastLeft h'.now ran ∧
      Closing id c deadline ((s.concludeOn c deadline ended).trace last) h'' := by
  obtain ⟨hreach, hover⟩ := s.runAllOn_reached c deadline b.errands h'
  have hctx := (s.aloof_runAllOn c deadline b.errands).context_eq h' id
  have hstep := body_keepsStep hs b ho
  rw [trace_withTransaction]
  simp only [hbegun, Trace.andThen_value, flatTransaction, Act.trace_bind, Act.trace_settle]
  rcases hrun : (s.runAllOn c deadline b.errands).trace h' with ⟨o, m, ran⟩
  rw [hrun] at hreach hover hctx hstep
  have hopen : m.context id = .opened id c 1 deadline := hctx.trans ho
  -- the end that the statements give to the transaction
  obtain ⟨ended, rfl⟩ := Outcome.exists_settled hreach.ne_hang
  simp only [Trace.withOutcome_mk, Settled.settled_outcome, Trace.andThen_value]
  rcases hstep with hsame | ⟨ended', hcol⟩
  · obtain ⟨h'', hcon, hclose⟩ := trace_conclude_of_outer hs hopen ended
    refine ⟨ran, ended, h'', m, ?_, rfl, rfl, hreach, hover, hclose⟩
    simp only [hsame, Trace.withOutcome_mk, Settled.settled_outcome, Trace.andThen_value, hcon,
      Trace.after_mk, Trace.outcome_after, Trace.trips_after]
  · have he : ended = ended' := by
      have := hcol.outcome_flat
      cases ended <;> cases ended' <;> simp_all [Settled.outcome]
    subst he
    refine ⟨ran, ended, ((b.act s id).trace h').host, m, ?_, rfl, rfl, hreach, hover, hcol.closing⟩
    rw [hcol.conclude]
    simp only [Trace.after, ← hcol.outcome_eq, hcol.trips_eq]

/-- **Nested transactions are flat.**  Once the outermost begin has succeeded, on a context that held
nothing, the transaction makes the calls of a flat one and ends like it: those of the statements reached,
in order and all on the connection of the begin, and then those of one commit or of one rollback.  A
statement that resolves, a commit and a rollback each make no call only if there is no time left for it
then, or if the clock cannot hold the end of its timeout. -/
theorem nested_calls_flat (hs : s.server.CalmRollback) (ho : h.context id = .vacant id deadline)
    (b : Body) (hbegun : ((s.begin id).trace h).outcome = .value ()) :
    let begun := (s.begin id).trace h
    let whole := (s.withTransaction id (b.act s id)).trace h
    ∃ c before t, begun.trips = before ++ [t] ∧ t.call = .begin c ∧ t.succeeded = true ∧
      (let flat := (s.flatTransaction c deadline b.errands).trace begun.host
       whole.outcome = flat.outcome ∧ whole.trips = begun.trips ++ flat.trips) ∧
      ∃ ran ended tail, whole.trips = begun.trips ++ ran ++ tail ∧
        Reached s c deadline begun.host.now b.errands ran ended.outcome ∧
        Concluded s c deadline (RoundTrip.lastLeft begun.host.now ran) ended tail whole.outcome := by
  intro begun whole
  rcases begin_of_vacant (s := s) ho with ⟨c, before, t, h', ht, hts, hopen, hbegin⟩ | ⟨hne, _⟩
  · obtain ⟨ran, ended, h'', m, hwhole, htrips, hout, hreach, hover, _⟩ :=
      withTransaction_of_begun (b := b) hs hbegin hopen
    have hbhost : begun.host = h' := by simp only [begun, hbegin]
    have hbtrips : begun.trips = before ++ [t] := by simp only [begun, hbegin]
    refine ⟨c, before, t, hbtrips, ht, hts, ?_, ran, ended,
      ((s.concludeOn c deadline ended).trace m).trips, ?_, by rw [hbhost]; exact hreach, ?_⟩
    · simp only [whole, hwhole, hbhost, hbtrips, and_self]
    · simp only [whole, hwhole, hbtrips, htrips, List.append_assoc]
    · simp only [whole, hwhole, hout, hbhost, ← hover]
      exact s.concludeOn_concluded c deadline hs m ended
  · exact absurd hbegun hne

/-- A service that reads and does not write. -/
def readOnly : Service Unit := .plain fun
  | .execute .. => .failure (.database "read only" none "")
  | _ => .reply .done

/-- A read in a transaction of its own, and a write after that. -/
def Body.readThenWrite : Body :=
  .transaction (.statement ⟨.select, .text "q" false []⟩ .done)
    (.statement ⟨.execute, .text "w" false []⟩ .done)

/-- The write is refused, and the read is rolled back with it. -/
theorem nested_calls_flat_readThenWrite :
    let h := Host.fresh () 0
    let begun := (readOnly.begin "a").trace h
    let whole := (readOnly.withTransaction "a" (Body.readThenWrite.act readOnly "a")).trace h
    readOnly.server.CalmRollback ∧ h.context "a" = .vacant "a" none ∧ begun.outcome = .value () ∧
    ∃ c before t, begun.trips = before ++ [t] ∧ t.call = .begin c ∧ t.succeeded = true ∧
      (let flat := (readOnly.flatTransaction c none Body.readThenWrite.errands).trace begun.host
       whole.outcome = flat.outcome ∧ whole.trips = begun.trips ++ flat.trips) ∧
      ∃ ran ended tail, whole.trips = begun.trips ++ ran ++ tail ∧
        Reached readOnly c none begun.host.now Body.readThenWrite.errands ran ended.outcome ∧
        Concluded readOnly c none (RoundTrip.lastLeft begun.host.now ran) ended tail whole.outcome := by
  have hcalm : readOnly.server.CalmRollback := fun _ _ _ => nofun
  have hbegun : ((readOnly.begin "a").trace (Host.fresh () 0)).outcome = .value () := by rfl
  exact ⟨hcalm, rfl, hbegun, nested_calls_flat hcalm rfl Body.readThenWrite hbegun⟩

end Service

end SqlSession
