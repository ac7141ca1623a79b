import SqlSession.Proofs.Custody.Session

/-! # Samples of operations

The metrics sink gets its samples from `Service.observe` alone: what an operation does inside of it reports
nothing (`Act.Silent`), also where it acquires a connection or gives one back.  So an operation that has
completed leaves exactly one sample, which says how it ended (`samples_begin` to `samples_execute`), and one
that panics or never ends leaves none. -/

namespace SqlSession

/-- The samples in a journal. -/
def Journal.samples (j : List Entry) : List Sample := j.filterMap Entry.sample?

theorem Journal.samples_append (j j' : List Entry) : samples (j ++ j') = samples j ++ samples j' :=
  List.filterMap_append

/-! ### Acts that report nothing -/

/-- Whether an act leaves no sample. -/
def Act.Silent (x : Act σ α) : Prop := ∀ h, Journal.samples (x h).journal = []

namespace Act.Silent

variable {server : Server σ}

theorem of_journal_nil {x : Act σ α} (hx : ∀ h, (x h).journal = []) : x.Silent := by
  intro h
  rw [hx h]
  rfl

theorem pure (a : α) : (Pure.pure a : Act σ α).Silent := of_journal_nil fun _ => rfl

theorem fail (f : Failure) : (Act.fail f : Act σ α).Silent := of_journal_nil fun _ => rfl

theorem panic (p : Payload) : (Act.panic p : Act σ α).Silent := of_journal_nil fun _ => rfl

theorem ofExcept : ∀ e : Except Failure α, (Act.ofExcept e : Act σ α).Silent
  | .ok a => pure a
  | .error f => fail f

theorem context (id : String) : (Act.context id : Act σ Context).Silent := of_journal_nil fun _ => rfl

theorem store (c : Context) : (Act.store c : Act σ Unit).Silent := of_journal_nil fun _ => rfl

theorem handOut : (Server.handOut : Act σ ConnId).Silent := of_journal_nil fun _ => rfl

theorem budget (deadline : Option Instant) (secs : Nat) :
    (Service.budget deadline secs : Act σ Budget).Silent := by
  refine of_journal_nil fun h => ?_
  rcases Service.budget_cases deadline secs h with ⟨_, e⟩ | ⟨_, b, _, _, e⟩ <;> rw [e]

theorem log (e : Event) : (Act.log e : Act σ Unit).Silent := fun _ => rfl

theorem drop (c : ConnId) : (server.drop c).Silent := fun _ => rfl

theorem discard (c : ConnId) : (server.discard c).Silent := fun _ => rfl

theorem call (c : Call) : (server.call c).Silent := fun _ => rfl

theorem callWithin (b : Budget) (operation : String) (c : Call) :
    (server.callWithin b operation c).Silent := by
  intro h
  rcases server.callWithin_cases b operation c h with ⟨_, e⟩ | ⟨_, t, state, _, _, e⟩ <;> rw [e] <;> rfl

end Act.Silent

/-! ### Samples of acts one after the other -/

/-- What comes after a run that has ended, if it has. -/
def Run.thenCome (r : Run σ α) (k : Settled α → Host σ → List β) : List β :=
  match r.outcome with
  | .value a => k (.value a) r.host
  | .failure f => k (.failure f) r.host
  | .panic p => k (.panic p) r.host
  | .hang => []

theorem Run.map_thenCome (r : Run σ α) (k : Settled α → Host σ → List β) (f : β → γ) :
    (r.thenCome k).map f = r.thenCome fun ended h => (k ended h).map f := by
  unfold thenCome
  cases r.outcome <;> rfl

/-- What comes after the end that a run has had. -/
theorem Run.thenCome_of_ended {r : Run σ α} {ended : Settled α} (ho : r.outcome = ended.outcome)
    (k : Settled α → Host σ → List β) : r.thenCome k = k ended r.host := by
  unfold thenCome
  rw [ho]
  cases ended <;> rfl

namespace Act

theorem samples_bind_of_value {x : Act σ α} {a : α} {h : Host σ} (ho : (x h).outcome = .value a)
    (k : α → Act σ β) : Journal.samples ((x >>= k) h).journal =
      Journal.samples (x h).journal ++ Journal.samples (k a (x h).host).journal := by
  rw [bind_of_value ho, Journal.samples_append]

theorem samples_bind_of_stop {x : Act σ α} {h : Host σ} (ho : ∀ a, (x h).outcome ≠ .value a)
    (k : α → Act σ β) : Journal.samples ((x >>= k) h).journal = Journal.samples (x h).journal :=
  congrArg Journal.samples (bind_of_stop ho).2

/-- A continuation that reports nothing leaves the samples as they are. -/
theorem samples_bind_silent (x : Act σ α) {k : α → Act σ β} (hk : ∀ a, (k a).Silent) (h : Host σ) :
    Journal.samples ((x >>= k) h).journal = Journal.samples (x h).journal := by
  by_cases ho : ∃ a, (x h).outcome = .value a
  · obtain ⟨a, ho⟩ := ho
    rw [samples_bind_of_value ho, hk a, List.append_nil]
  · exact samples_bind_of_stop (fun a ha => ho ⟨a, ha⟩) k

theorem Silent.bind {x : Act σ α} {k : α → Act σ β} (hx : x.Silent) (hk : ∀ a, (k a).Silent) :
    (x >>= k).Silent := by
  intro h
  rw [samples_bind_silent x hk, hx]

theorem samples_settle (x : Act σ α) (h : Host σ) :
    Journal.samples (Act.settle x h).journal = Journal.samples (x h).journal := by
  simp only [Act.settle]
  cases (x h).outcome <;> rfl

theorem samples_attempt (x : Act σ α) (h : Host σ) :
    Journal.samples (Act.attempt x h).journal = Journal.samples (x h).journal := by
  simp only [Act.attempt]
  cases (x h).outcome <;> rfl

theorem Silent.settle {x : Act σ α} (hx : x.Silent) : (Act.settle x).Silent :=
  fun h => (samples_settle x h).trans (hx h)

theorem Silent.attempt {x : Act σ α} (hx : x.Silent) : (Act.attempt x).Silent :=
  fun h => (samples_attempt x h).trans (hx h)

/-- The samples of an act whose end is passed on, however it ends. -/
theorem samples_settle_bind (x : Act σ α) (k : Settled α → Act σ β) (h : Host σ) :
    Journal.samples ((Act.settle x >>= k) h).journal =
      Journal.samples (x h).journal ++ (x h).thenCome fun ended h => Journal.samples (k ended h).journal := by
  simp only [Bind.bind, Act.bind, Act.settle, Run.thenCome]
  cases (x h).outcome <;> simp [Journal.samples_append]

end Act

/-! ### What an operation reports -/

/-- An operation that has completed, and what it returned apart from a value. -/
structure Completion where
  operation : String
  returned : Except Failure Unit

/-- The completion of an operation that ended so: none if it has panicked or never ends. -/
def Outcome.completion (operation : String) : Outcome α → List Completion
  | value _ => [⟨operation, .ok ()⟩]
  | failure f => [⟨operation, .error f⟩]
  | panic _ => []
  | hang => []

/-- What always gives a value changes nothing about how an act before it completes. -/
theorem Act.completion_bind_of_value {x : Act σ α} {k : α → Act σ β}
    (hk : ∀ a h, ∃ b, (k a h).outcome = .value b) (operation : String) (h : Host σ) :
    ((x >>= k) h).outcome.completion operation = (x h).outcome.completion operation := by
  simp only [Bind.bind, Act.bind]
  cases (x h).outcome with
  | value a =>
      obtain ⟨b, hb⟩ := hk a (x h).host
      simp only [hb, Outcome.completion]
  | _ => rfl

/-- The sample of a completed operation: a success, or an error with the code of the failure. -/
def Completion.sample (settings : Settings) (c : Completion) : Sample :=
  let name := settings.metricPrefix ++ "." ++ c.operation
  match c.returned with
  | .ok () => ⟨name, true, none⟩
  | .error f => ⟨name, false, f.code?⟩

namespace Service

variable {s : Service σ} {id : String}

/-- The samples of completed operations. -/
def samplesOf (s : Service σ) (l : List Completion) : List Sample := l.map (Completion.sample s.settings)

/-- Whether an act is reported as an operation, once and as it ended. -/
def Reports (s : Service σ) (operation : String) (x : Act σ α) : Prop :=
  ∀ h, Journal.samples (x h).journal = s.samplesOf ((x h).outcome.completion operation)

/-- **One sample for each operation.** -/
theorem reports_observe (hm : s.settings.metered = true) (operation : String) {x : Act σ α}
    (hx : x.Silent) : s.Reports operation (s.observe operation x) := by
  intro h
  have hsamples : Journal.samples (s.observe operation x h).journal =
      (s.sampleOf operation (x h).outcome).toList := by
    rw [observe]
    simp only [hm, if_true, Journal.samples_append, hx h, List.nil_append]
    cases s.sampleOf operation (x h).outcome <;> rfl
  rw [hsamples]
  change _ = s.samplesOf ((x h).outcome.completion operation)
  cases (x h).outcome <;> rfl

/-! ### What operations do inside -/

open Act (Silent)

theorem silent_tryConnect (deadline : Option Instant) : (s.tryConnect deadline).Silent := by
  refine .bind (.budget _ _) fun b => .bind (.callWithin _ _ _) fun _ => .bind .handOut fun c =>
    .bind (Silent.settle (.callWithin _ _ _)) fun ended => ?_
  cases ended with
  | value _ => exact .pure c
  | failure f => exact .bind (.discard c) fun _ => .fail f
  | panic p => exact .bind (.drop c) fun _ => .panic p

theorem silent_connectWithin (deadline : Option Instant) :
    ∀ left next : Nat, (s.connectWithin deadline left next).Silent
  | 0, _ => .bind (.log _) fun _ => .fail _
  | left + 1, next => by
      refine .bind (silent_tryConnect deadline).attempt fun ended => ?_
      cases ended with
      | ok c => exact .pure c
      | error f => exact .bind (.log _) fun _ => silent_connectWithin deadline left (next + 1)

theorem silent_replaceContext (c : Context) : (s.replaceContext c).Silent := by
  refine .bind (.context _) fun old => .bind (.store c) fun _ => ?_
  cases old.handle.conn? with
  | none => exact .pure ()
  | some conn => exact .drop conn

theorem silent_startTransaction (ctx : Context) (acquired : Bool) :
    (s.startTransaction ctx acquired).Silent := by
  refine .bind (.budget _ _) fun b => ?_
  cases ctx.handle.conn? with
  | none => exact .fail _
  | some c =>
      refine .bind (Silent.attempt (.callWithin _ _ _)) fun ended => ?_
      cases ended with
      | ok _ => exact .bind (.store _) fun _ => .log _
      | error f =>
          cases acquired with
          | false => exact .fail f
          | true => exact .bind (.store _) fun _ => .bind (.discard c) fun _ => .fail f

theorem silent_joinTransaction (ctx : Context) : (joinTransaction ctx : Act σ Unit).Silent := by
  unfold joinTransaction
  split
  · exact .fail _
  · exact .bind (.store _) fun _ => .log _

/-- Also where a begin acquires a connection it reports nothing of that. -/
theorem silent_beginUnguarded : (s.beginUnguarded id).Silent := by
  have hstart (acquired : Bool) : (do
      let held ← Act.context id
      if held.level = 0 then s.startTransaction held acquired
      else joinTransaction held : Act σ Unit).Silent := by
    refine .bind (.context id) fun held => ?_
    split
    · exact silent_startTransaction held acquired
    · exact silent_joinTransaction held
  refine .bind (.context id) fun ctx => ?_
  split
  · exact .bind (silent_connectWithin _ _ _) fun c => .bind (.store _) fun _ => hstart _
  · exact hstart _

theorem silent_discardUnknown : (s.discardUnknown id).Silent := by
  refine .bind (.context id) fun ctx => ?_
  split
  · cases ctx.handle.conn? with
    | none => exact .pure ()
    | some c => exact .bind (.store _) fun _ => .discard c
  · exact .pure ()

theorem silent_releaseCommitted (c : ConnId) : (s.releaseCommitted id c).Silent := by
  refine .bind (Silent.attempt (.call _)) fun ended => ?_
  cases ended with
  | ok _ => exact .pure ()
  | error f => exact .bind (.log _) fun _ => .fail f

/-- Closing is no operation that is reported. -/
theorem silent_close : (s.close id).Silent := by
  refine .bind (.context id) fun ctx => ?_
  split
  · exact .fail _
  · cases ctx.handle.conn? with
    | none => exact .pure ()
    | some c => exact .bind (.store _) fun _ => .bind (.call _) fun _ => .log _

/-! ### The operations -/

section

variable (hm : s.settings.metered = true)
include hm

/-- The context that takes the connection in is stored after the report. -/
theorem samples_connection : s.Reports "connection" (s.connection id) := by
  have hacquire : (do
      let c ← s.acquireVerified none
      Act.log (.connectionAcquired id)
      return c : Act σ ConnId).Silent :=
    .bind (silent_connectWithin _ _ _) fun c => .bind (.log _) fun _ => .pure c
  intro h
  rw [connection, Act.samples_bind_silent _ fun c => silent_replaceContext _,
    Act.completion_bind_of_value fun c h => ⟨(), s.replaceContext_outcome _ h⟩]
  exact reports_observe hm "connection" hacquire h

theorem samples_testConnection : s.Reports "ping" (s.testConnection id) :=
  reports_observe hm "ping" <| .bind (.context id) fun _ => .bind (.budget _ _) fun _ =>
    .bind (.callWithin _ _ _) fun _ => .pure ()

theorem samples_begin : s.Reports "begin" (s.begin id) := by
  refine reports_observe hm "begin" (.bind silent_beginUnguarded.settle fun ended => ?_)
  cases ended with
  | value _ => exact .pure ()
  | failure f => exact .fail f
  | panic p => exact .bind (.log _) fun _ => .bind silent_discardUnknown fun _ => .fail _

theorem samples_commit : s.Reports "commit" (s.commit id) := by
  refine reports_observe hm "commit" (.bind (.context id) fun ctx => ?_)
  split
  · exact .fail _
  split
  · exact .fail _
  split
  · exact .bind (.store _) fun _ => .log _
  refine .bind (.budget _ _) fun b => ?_
  cases ctx.handle.conn? with
  | none => exact .fail _
  | some c =>
      exact .bind (.callWithin _ _ _) fun _ => .bind (.log _) fun _ => .bind (.store _) fun _ =>
        silent_releaseCommitted c

theorem samples_rollback : s.Reports "rollback" (s.rollback id) := by
  refine reports_observe hm "rollback" (.bind (.context id) fun ctx => ?_)
  split
  · exact .pure ()
  split
  · exact .fail _
  refine .bind (.budget _ _) fun b => ?_
  cases ctx.handle.conn? with
  | none => exact .bind (.store _) fun _ => .bind (.log _) fun _ => .fail _
  | some c =>
      refine .bind (Silent.attempt (.callWithin _ _ _)) fun ended => .bind (.store _) fun _ => ?_
      cases ended with
      | ok _ => exact .bind (.log _) fun _ => .bind (.call _) fun _ => .pure ()
      | error f => exact .bind (.log _) fun _ => .bind (.discard c) fun _ => .fail f

theorem samples_select (sql : String) (lock : Bool) (params : List Param) :
    s.Reports "select" (s.select id sql lock params) :=
  reports_observe hm "select" <| .bind (.context id) fun _ => .bind (.budget _ _) fun _ =>
    .bind (.callWithin _ _ _) fun _ => .bind (.log _) fun _ => .pure _

theorem samples_execute (sql : String) (params : List Param) :
    s.Reports "execute" (s.execute id sql params) :=
  reports_observe hm "execute" <| .bind (.context id) fun _ => .bind (.budget _ _) fun _ =>
    .bind (.callWithin _ _ _) fun _ => .bind (.log _) fun _ => .pure _

end

end Service

end SqlSession
