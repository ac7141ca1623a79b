import SqlSession.Proofs.Custody.Session

/-! # Guards

Begin, commit and rollback guard against contexts that count begins without a transaction, and against
transactions without a connection.  Here what is done at a guard is a parameter: the operations of the
service are those that fail there (`Operation.act_eq_actOr`).  In every session all contexts are sound, so
that no guard is reached, and it is all the same what would be done there (`sound_and_unguarded`).  A
session contains whatever a client does, the bodies of transactions included (`Client.session`). -/

namespace SqlSession

/-- Where an operation finds a context in a state that it guards against. -/
inductive Guard where
  /-- Begins are counted, and there is no transaction to join. -/
  | joining
  | committing
  | rollingBack
  /-- A transaction is to be started, and there is no connection. -/
  | startingLost
  | committingLost
  | rollingBackLost
deriving DecidableEq, Repr

/-- What is done at each guard by an operation on the context of an id. -/
abbrev Guard.Handler (σ : Type) : Type := Guard → (id : String) → Context → Act σ Unit

/-- What the service does at a guard: it fails. -/
def Guard.fail : Guard.Handler σ
  | joining, _, ctx =>
    Act.fail (.transaction "nesting level set without an active transaction" ctx.id)
  | committing, id, _ => Act.fail (.transaction "no active transaction to commit" id)
  | rollingBack, id, _ => Act.fail (.transaction "no active transaction to roll back" id)
  | startingLost, _, _ => Act.fail Service.lostConnection
  | committingLost, _, _ => Act.fail Service.lostConnection
  | rollingBackLost, id, ctx => do
    Act.store { ctx with level := 0 }
    Act.log (.rollbackFailed id Service.lostConnection.message)
    Act.fail Service.lostConnection

/-! ### Operations with their guards as a parameter -/

namespace Service

variable (s : Service σ) (g : Guard.Handler σ)

def startTransactionOr (ctx : Context) (acquired : Bool) : Act σ Unit := do
  let b ← budget ctx.deadline s.settings.writeSecs
  match ctx.handle.conn? with
  | none => g .startingLost ctx.id ctx
  | some c =>
    match ← Act.attempt (s.server.callWithin b "begin" (.begin c)) with
    | .ok _ =>
      Act.store { ctx with handle := .transaction c, level := 1 }
      Act.log (.transactionStarted ctx.id)
    | .error f =>
      if acquired then
        Act.store { ctx with handle := .detached }
        s.server.discard c
      Act.fail f

def joinTransactionOr (ctx : Context) : Act σ Unit := do
  if !ctx.handle.inTransaction then g .joining ctx.id ctx
  else
    Act.store { ctx with level := ctx.level + 1 }
    Act.log (.transactionJoined ctx.id (ctx.level + 1))

def beginUnguardedOr (id : String) : Act σ Unit := do
  let ctx ← Act.context id
  if ctx.handle.isDetached then
    let c ← s.acquireVerified ctx.deadline
    Act.store { ctx with handle := .connection c }
  let held ← Act.context id
  if held.level = 0 then s.startTransactionOr g held ctx.handle.isDetached
  else joinTransactionOr g held

/-- A begin that does at its guards what it is told. -/
def beginOr (id : String) : Act σ Unit :=
  s.observe "begin" do
    match ← Act.settle (s.beginUnguardedOr g id) with
    | .value () => pure ()
    | .failure f => Act.fail f
    | .panic p =>
      Act.log (.panicWhileBeginning id p.message)
      s.discardUnknown id
      Act.fail (.transaction ("begin failed: " ++ p.message) id)

/-- A commit that does at its guards what it is told. -/
def commitOr (id : String) : Act σ Unit :=
  s.observe "commit" do
    let ctx ← Act.context id
    if ctx.level = 0 then Act.fail (.transaction "commit called without a matching begin" id)
    else if !ctx.handle.inTransaction then g .committing id ctx
    else if 1 < ctx.level then
      Act.store { ctx with level := ctx.level - 1 }
      Act.log (.nestedCommit id (ctx.level - 1))
    else
      let b ← budget ctx.deadline s.settings.writeSecs
      match ctx.handle.conn? with
      | none => g .committingLost id ctx
      | some c =>
        let _ ← s.server.callWithin b "commit" (.commit c)
        Act.log (.transactionCommitted id)
        Act.store { ctx with handle := .detached, level := 0 }
        s.releaseCommitted id c

/-- A rollback that does at its guards what it is told. -/
def rollbackOr (id : String) : Act σ Unit :=
  s.observe "rollback" do
    let ctx ← Act.context id
    if ctx.level = 0 then pure ()
    else if !ctx.handle.inTransaction then g .rollingBack id ctx
    else
      let b ← budget ctx.deadline s.settings.writeSecs
      match ctx.handle.conn? with
      | none => g .rollingBackLost id ctx
      | some c =>
        let ended ← Act.attempt (s.server.callWithin b "rollback" (.rollback c))
        Act.store { ctx with handle := .detached, level := 0 }
        match ended with
        | .ok _ =>
          Act.log (.transactionRolledBack id ctx.level)
          let _ ← s.server.call (.release c)
        | .error f =>
          Act.log (.rollbackFailed id f.message)
          s.server.discard c
          Act.fail f

/-- The end of a transaction by a commit or a rollback that does at its guards what it is told. -/
def concludeOr (id : String) : Settled α → Act σ α
  | .value a => do
    s.commitOr g id
    return a
  | .failure f => do
    match ← Act.attempt (s.rollbackOr g id) with
    | .ok _ => Act.fail f
    | .error rollback => Act.fail (.rollbackFailed f rollback)
  | .panic p => do
    Act.log (.panicInTransaction id)
    match ← Act.attempt (s.rollbackOr g id) with
    | .ok _ => pure ()
    | .error f => Act.log (.rollbackAfterPanicFailed id f.message)
    Act.panic p

theorem begin_eq_beginOr (id : String) : s.begin id = s.beginOr Guard.fail id := rfl

theorem commit_eq_commitOr (id : String) : s.commit id = s.commitOr Guard.fail id := rfl

theorem rollback_eq_rollbackOr (id : String) : s.rollback id = s.rollbackOr Guard.fail id := rfl

theorem conclude_eq_concludeOr (id : String) :
    ∀ ended : Settled α, s.conclude id ended = s.concludeOr Guard.fail id ended
  | .value _ => rfl
  | .failure _ => rfl
  | .panic _ => rfl

end Service

/-- What an operation does that does at its guards what it is told. -/
def Operation.actOr (g : Guard.Handler σ) (s : Service σ) : Operation → Act σ Unit
  | begin id => s.beginOr g id
  | commit id => s.commitOr g id
  | rollback id => s.rollbackOr g id
  | conclude id ended => s.concludeOr g id ended
  | o => o.act s

theorem Operation.act_eq_actOr (s : Service σ) (o : Operation) :
    o.act s = o.actOr Guard.fail s := by
  cases o with
  | begin id => exact s.begin_eq_beginOr id
  | commit id => exact s.commit_eq_commitOr id
  | rollback id => exact s.rollback_eq_rollbackOr id
  | conclude id ended => exact s.conclude_eq_concludeOr id ended
  | _ => rfl

/-! ### On sound contexts no guard is reached -/

namespace Act

variable {h : Host σ}

/-- What follows an act may be replaced by what does the same after it. -/
theorem bind_congr {x : Act σ α} {k m : α → Act σ β}
    (hk : ∀ a, (x h).outcome = .value a → k a (x h).host = m a (x h).host) :
    (x >>= k) h = (x >>= m) h := by
  simp only [Bind.bind, Act.bind]
  cases ho : (x h).outcome with
  | value a => simp only [hk a ho]
  | _ => rfl

theorem context_congr {id : String} {x : Context} {k m : Context → Act σ β}
    (hx : h.context id = x) (hk : k x h = m x h) :
    (context id >>= k) h = (context id >>= m) h := by
  subst hx
  refine bind_congr fun a ha => ?_
  obtain rfl : h.context id = a := by simpa [context, read] using ha
  exact hk

theorem bind_congr_left {x y : Act σ α} (hxy : x h = y h) (k : α → Act σ β) :
    (x >>= k) h = (y >>= k) h := by
  simp only [Bind.bind, Act.bind, hxy]

theorem settle_congr {x y : Act σ α} (hxy : x h = y h) : settle x h = settle y h := by
  simp only [settle, hxy]

theorem attempt_congr {x y : Act σ α} (hxy : x h = y h) : attempt x h = attempt y h := by
  simp only [attempt, hxy]

theorem observe_congr {s : Service σ} {operation : String} {x y : Act σ α} (hxy : x h = y h) :
    s.observe operation x h = s.observe operation y h := by
  simp only [Service.observe, hxy]

end Act

namespace Service

variable {s : Service σ} {g : Guard.Handler σ} {id : String} {h : Host σ}

theorem beginUnguardedOr_eq (hs : (h.context id).Sound) :
    s.beginUnguardedOr g id h = s.beginUnguarded id h := by
  obtain ⟨deadline, hx | ⟨c, hx⟩ | ⟨c, n, hx⟩⟩ := Host.context_cases hs
  · refine Act.context_congr hx (Act.bind_congr fun c _ => Act.bind_congr fun _ _ => ?_)
    exact Act.context_congr (x := .idle id c deadline) (Host.context_put rfl) rfl
  · exact Act.context_congr hx (Act.context_congr hx rfl)
  · exact Act.context_congr hx (Act.context_congr hx rfl)

theorem beginOr_eq (hs : (h.context id).Sound) : s.beginOr g id h = s.begin id h :=
  Act.observe_congr (Act.bind_congr_left (Act.settle_congr (beginUnguardedOr_eq hs)) _)

theorem commitOr_eq (hs : (h.context id).Sound) : s.commitOr g id h = s.commit id h := by
  refine Act.observe_congr ?_
  obtain ⟨deadline, hx | ⟨c, hx⟩ | ⟨c, n, hx⟩⟩ := Host.context_cases hs <;>
    exact Act.context_congr hx rfl

theorem rollbackOr_eq (hs : (h.context id).Sound) : s.rollbackOr g id h = s.rollback id h := by
  refine Act.observe_congr ?_
  obtain ⟨deadline, hx | ⟨c, hx⟩ | ⟨c, n, hx⟩⟩ := Host.context_cases hs <;>
    exact Act.context_congr hx rfl

theorem concludeOr_eq (hs : (h.context id).Sound) :
    ∀ ended : Settled α, s.concludeOr g id ended h = s.conclude id ended h
  | .value _ => Act.bind_congr_left (commitOr_eq hs) _
  | .failure _ => Act.bind_congr_left (Act.attempt_congr (rollbackOr_eq hs)) _
  | .panic _ => Act.bind_congr fun _ _ =>
      Act.bind_congr_left (Act.attempt_congr (rollbackOr_eq (h := h) hs)) _

end Service

theorem Operation.actOr_eq {s : Service σ} {h : Host σ} (hs : ∀ id, (h.context id).Sound)
    (g : Guard.Handler σ) (o : Operation) : o.actOr g s h = o.act s h := by
  cases o with
  | begin id => exact Service.beginOr_eq (hs id)
  | commit id => exact Service.commitOr_eq (hs id)
  | rollback id => exact Service.rollbackOr_eq (hs id)
  | conclude id ended => exact Service.concludeOr_eq (hs id) ended
  | _ => rfl

/-! ### Clients -/

/-- What can be written with the operations of a service: they follow one another, as the ends and the
results of those before ask for, and some are done inside transactions, which may be nested. -/
inductive Client (s : Service σ) : {α : Type} → Act σ α → Prop
  | operation (o : Operation) : Client s (o.act s)
  | statement (id : String) (e : Errand) : Client s (Rehearsal.statementAct s id e.kind e.request)
  | pure {α : Type} (a : α) : Client s (Pure.pure a : Act σ α)
  | fail {α : Type} (f : Failure) : Client s (Act.fail f : Act σ α)
  | panic {α : Type} (p : Payload) : Client s (Act.panic p : Act σ α)
  | bind {α β : Type} {x : Act σ α} {k : α → Act σ β} (hx : Client s x)
      (hk : ∀ a, Client s (k a)) : Client s (x >>= k)
  | settle {α : Type} {x : Act σ α} (hx : Client s x) : Client s (Act.settle x)
  | attempt {α : Type} {x : Act σ α} (hx : Client s x) : Client s (Act.attempt x)
  | withTransaction {α : Type} {body : Act σ α} (id : String) (hb : Client s body) :
      Client s (s.withTransaction id body)

namespace Client

variable {s : Service σ} {h₀ : Host σ}

/-- The result of a statement does not matter to the session. -/
theorem statement_session {j : List Entry} {h : Host σ}
    (hs : Session s (fun _ _ => True) h₀ j h) (id : String) (e : Errand) :
    Session s (fun _ _ => True) h₀ (j ++ (Rehearsal.statementAct s id e.kind e.request h).journal)
      (Rehearsal.statementAct s id e.kind e.request h).host := by
  have hrun := hs.operation (.statement id e) trivial
  simp only [Operation.act, Service.perform, Bind.bind, Act.bind] at hrun
  cases ho : (Rehearsal.statementAct s id e.kind e.request h).outcome with
  | value v => simpa [ho, Pure.pure, Act.pure] using hrun
  | _ => simpa [ho] using hrun

/-- Whatever a client does goes on with the session. -/
theorem session {α : Type} {x : Act σ α} (hx : Client s x) :
    ∀ {j : List Entry} {h : Host σ}, Session s (fun _ _ => True) h₀ j h →
      Session s (fun _ _ => True) h₀ (j ++ (x h).journal) (x h).host := by
  induction hx with
  | operation o => exact fun hs => hs.operation o trivial
  | statement id e => exact fun hs => statement_session hs id e
  | pure a => exact fun hs => by simpa [Pure.pure, Act.pure] using hs
  | fail f => exact fun hs => by simpa [Act.fail] using hs
  | panic p => exact fun hs => by simpa [Act.panic] using hs
  | @bind α β x k hx hk ihx ihk =>
      intro j h hs
      have hfirst := ihx hs
      simp only [Bind.bind, Act.bind]
      cases ho : (x h).outcome with
      | value a => simpa using ihk a hfirst
      | _ => exact hfirst
  | @settle α x hx ih =>
      intro j h hs
      have hrun := ih hs
      simp only [Act.settle]
      cases (x h).outcome <;> exact hrun
  | @attempt α x hx ih =>
      intro j h hs
      have hrun := ih hs
      simp only [Act.attempt]
      cases (x h).outcome <;> exact hrun
  | withTransaction id hb ih =>
      exact fun hs => hs.withTransaction id trivial (fun _ _ => trivial) fun _ _ => ih

end Client

/-! ### Contexts are sound -/

/-- **Contexts are sound, and guards are not reached.**  In every session, whatever becomes of its calls,
a context has a transaction exactly while it counts begins.  On any host an operation is the one that fails at
its guards; in the session it does the same whatever is to be done there, and what a client does next goes on
with the session. -/
theorem sound_and_unguarded {s : Service σ} {state : σ} {now : Instant} {j : List Entry} {h : Host σ}
    (hs : Session s (fun _ _ => True) (.fresh state now) j h) :
    (∀ id, (h.context id).handle.inTransaction = true ↔ 1 ≤ (h.context id).level) ∧
    (∀ id, (h.context id).handle.inTransaction = false → (h.context id).level = 0) ∧
    (∀ o : Operation, o.act s = o.actOr Guard.fail s) ∧
    (∀ (g : Guard.Handler σ) (o : Operation), o.actOr g s h = o.act s h) ∧
    ∀ {α : Type} {x : Act σ α}, Client s x →
      Session s (fun _ _ => True) (.fresh state now) (j ++ (x h).journal) (x h).host := by
  have hk : Kept True h j := hs.kept True (fun _ => trivial) fun _ _ _ _ => trivial
  refine ⟨hk.sound, fun id hidle => ?_, Operation.act_eq_actOr s,
    fun g o => o.actOr_eq hk.sound g, fun hx => hx.session hs⟩
  have hnone : ¬ 0 < (h.context id).level := fun hpos => by
    have hin := (hk.sound id).mpr hpos
    rw [hidle] at hin
    cases hin
  exact Nat.eq_zero_of_not_pos hnone

/-- A service whose server panics at every commit. -/
def Service.explosive : Service Unit := .plain fun
  | .commit _ => .panic (.text "connection reset")
  | _ => .reply .done

/-- The commit at the end of a transaction panics, and so has the one that its body has made and caught:
the context still counts one begin and has its transaction. -/
theorem sound_and_unguarded_explosive : ∃ j h,
    Session Service.explosive (fun _ _ => True) (.fresh () 0) j h ∧
    h.context "a" = .opened "a" 1 1 none ∧
    (∀ id, (h.context id).handle.inTransaction = true ↔ 1 ≤ (h.context id).level) ∧
    (∀ id, (h.context id).handle.inTransaction = false → (h.context id).level = 0) ∧
    (∀ o : Operation, o.act Service.explosive = o.actOr Guard.fail Service.explosive) ∧
    (∀ (g : Guard.Handler Unit) (o : Operation),
      o.actOr g Service.explosive h = o.act Service.explosive h) ∧
    ∀ {α : Type} {x : Act Unit α}, Client Service.explosive x →
      Session Service.explosive (fun _ _ => True) (.fresh () 0) (j ++ (x h).journal) (x h).host := by
  have hclient : Client Service.explosive (Service.explosive.withTransaction "a"
      (Act.settle (Service.explosive.commit "a"))) :=
    .withTransaction "a" (.settle (.operation (.commit "a")))
  have hs : Session Service.explosive (fun _ _ => True) (.fresh () 0) _ _ := hclient.session .start
  exact ⟨_, _, hs, by decide +kernel, sound_and_unguarded hs⟩

end SqlSession
