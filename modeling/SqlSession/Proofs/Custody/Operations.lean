import SqlSession.Proofs.Custody.Takes
import SqlSession.Rehearsal.Play

/-! # Operations keep the custody

Every operation of the service on a context moves the connection of that context and of no other, and
stores what it has moved: `Keeps` holds however the operation ends.  There is one lemma for each
operation. -/

namespace SqlSession

/-- What an operation on the context of an id leaves: the other contexts of `l`, and that one with the
handle `hd`. -/
structure Keeps (id : String) (l : List Context) (h : Host σ) (hd : Handle) : Prop where
  aside : h.contexts = l ∨ ∃ x : Context, x.id = id ∧ h.contexts = x.putInto l
  handle_eq : (h.context id).handle = hd
  sound : (h.context id).Sound

namespace Keeps

variable {id : String} {l : List Context} {h h' : Host σ} {hd : Handle}

theorem start (hs : (h.context id).Sound) : Keeps id h.contexts h (h.context id).handle :=
  ⟨.inl rfl, rfl, hs⟩

theorem of_contexts (hk : Keeps id l h hd) (he : h'.contexts = h.contexts) : Keeps id l h' hd where
  aside := by rw [he]; exact hk.aside
  handle_eq := by rw [Host.context, he]; exact hk.handle_eq
  sound := by rw [Host.context, he]; exact hk.sound

theorem put (hk : Keeps id l h hd) {x : Context} (hx : x.id = id) (hs : x.Sound) :
    Keeps id l (h.put x) x.handle where
  aside := by
    rcases hk.aside with e | ⟨y, hy, e⟩
    · exact .inr ⟨x, hx, by rw [Host.put, e]⟩
    · exact .inr ⟨x, hx, by rw [Host.put, e, Context.putInto_putInto (hx.trans hy.symm)]⟩
  handle_eq := by rw [Host.context_put hx]
  sound := by rw [Host.context_put hx]; exact hs

theorem vacate (hk : Keeps id l h hd) (deadline : Option Instant) :
    Keeps id l (h.put (.vacant id deadline)) .detached :=
  hk.put rfl (Context.sound_vacant id deadline)

theorem enter (hk : Keeps id l h hd) (c : ConnId) (n : Nat) (deadline : Option Instant) :
    Keeps id l (h.put (.opened id c (n + 1) deadline)) (.transaction c) :=
  hk.put rfl (Context.sound_opened id c n deadline)

theorem trans (hk : Keeps id l h hd) {hd' : Handle} (hk' : Keeps id h.contexts h' hd') :
    Keeps id l h' hd' where
  aside := by
    rcases hk'.aside with e | ⟨x, hx, e⟩
    · rw [e]
      exact hk.aside
    · rcases hk.aside with e' | ⟨y, hy, e'⟩
      · exact .inr ⟨x, hx, by rw [e, e']⟩
      · exact .inr ⟨x, hx, by rw [e, e', Context.putInto_putInto (hx.trans hy.symm)]⟩
  handle_eq := hk'.handle_eq
  sound := hk'.sound

end Keeps

/-- Whether a ping of a connection may panic. -/
def Server.PingPanics (server : Server σ) : Prop :=
  ∃ state c p, (server.react state (.ping c)).1.ending = .panic p

/-- The handle with the connection that an act has acquired. -/
def Outcome.acquired : Outcome ConnId → Handle
  | value c => .connection c
  | _ => .detached

namespace Service

variable {s : Service σ} {drops : Prop} {h : Host σ}

/-! ### Connections -/

section
variable (hping : s.server.PingPanics → drops)
include hping

theorem takes_tryConnect (deadline : Option Instant) : (s.tryConnect deadline).Takes drops h .detached
    fun o h' hd => h'.contexts = h.contexts ∧ hd = o.acquired := by
  unfold tryConnect
  refine .bind (.budget ⟨rfl, rfl⟩ fun b => .acquire ?_ (fun f h' he => ⟨he, rfl⟩) fun p h' he => ⟨he, rfl⟩)
  intro c h' he
  refine .bind (.settle (.callWithin ?_ ?_))
  · intro f
    exact .bind (.discard rfl fun h'' he' => .fail ⟨he'.trans he, rfl⟩)
  intro t state ha
  have hping' : Move drops (.connection c) h'.handedOut (.call t) (.connection c) h'.handedOut :=
    .plain (by rw [ha.call_eq]; rfl) (by rw [ha.call_eq]; nofun) (by rw [ha.call_eq]; exact fun _ => id)
  refine ⟨.connection c, hping', ?_⟩
  rcases t.outcome_cases b "ping" with ⟨_, r, ho⟩ | ⟨_, f, ho⟩ | ⟨_, p, hp, ho⟩ <;> rw [ho]
  · exact .pure ⟨he, rfl⟩
  · exact .bind (.discard rfl fun h'' he' => .fail ⟨he'.trans he, rfl⟩)
  · have hdrop : drops := by
      rcases ha.ending_eq with e | e
      · rw [hp] at e
        cases e
      · exact hping ⟨_, c, p, e.symm.trans hp⟩
    exact .bind (.drop rfl hdrop fun h'' he' => .panic ⟨he'.trans he, rfl⟩)

theorem takes_connectWithin (deadline : Option Instant) : ∀ (left next : Nat) {h : Host σ},
    (s.connectWithin deadline left next).Takes drops h .detached
      fun o h' hd => h'.contexts = h.contexts ∧ hd = o.acquired
  | 0, next, h => .bind (.log (.fail ⟨rfl, rfl⟩))
  | left + 1, next, h => by
      unfold connectWithin
      refine .bind (.attempt ((takes_tryConnect hping deadline).imp fun o h' hd ⟨he, hhd⟩ => ?_))
      subst hhd
      cases o with
      | value c => exact .pure ⟨he, rfl⟩
      | failure f =>
          refine .bind (.log ((takes_connectWithin deadline left (next + 1)).imp ?_))
          exact fun o h'' hd ⟨he', hhd⟩ => ⟨he'.trans he, hhd⟩
      | panic p => exact ⟨he, rfl⟩
      | hang => exact ⟨he, rfl⟩

theorem takes_acquireVerified (deadline : Option Instant) :
    (s.acquireVerified deadline).Takes drops h .detached
      fun o h' hd => h'.contexts = h.contexts ∧ hd = o.acquired :=
  takes_connectWithin hping deadline s.settings.attempts 1

end

/-- The operation keeps the custody of the context of an id. -/
def KeepsOn (drops : Prop) (id : String) (x : Act σ α) : Prop :=
  ∀ h : Host σ, (h.context id).Sound →
    x.Takes drops h (h.context id).handle fun _ h' hd => Keeps id h.contexts h' hd

variable {id : String}

namespace KeepsOn

theorem pure (a : α) : KeepsOn drops id (Pure.pure a : Act σ α) := fun _ hs => .pure (.start hs)

theorem fail (f : Failure) : KeepsOn drops id (Act.fail f : Act σ α) := fun _ hs => .fail (.start hs)

theorem bind {x : Act σ α} {k : α → Act σ β} (hx : KeepsOn drops id x)
    (hk : ∀ a, KeepsOn drops id (k a)) : KeepsOn drops id (x >>= k) := by
  refine fun h hs => .bind ((hx h hs).imp fun o h' hd hk' => ?_)
  refine .intro (fun a => ?_) (fun _ => hk') o
  have hnext := (hk a h' hk'.sound).imp fun o h'' hd' hk'' => hk'.trans hk''
  rwa [hk'.handle_eq] at hnext

end KeepsOn

/-- Nothing is left to do after a call that has left everything as it was. -/
theorem then_keeps {h h' : Host σ} {hd : Handle} {l : List Context} {k : α → Act σ β}
    (hk : Keeps id l h hd) (he : h'.contexts = h.contexts)
    (hv : ∀ a, (k a).Takes drops h' hd fun _ h' hd => Keeps id l h' hd) :
    ∀ o, Act.Then drops k (fun _ h' hd => Keeps id l h' hd) o h' hd :=
  .intro hv fun _ => hk.of_contexts he

theorem keeps_testConnection : KeepsOn drops id (s.testConnection id) := by
  intro h hs
  have hk := Keeps.start hs
  refine .observe (.bind_context rfl (.bind (.budget hk fun b => ?_)))
  cases hc : (h.context id).handle.conn? with
  | some c => exact .bind (.callWithin_plain rfl nofun (fun d hd => hc.trans hd) fun o h' he =>
      then_keeps hk he (fun _ => .pure (hk.of_contexts he)) o)
  | none => exact .bind (.callWithin_plain rfl nofun nofun fun o h' he =>
      then_keeps hk he (fun _ => .pure (hk.of_contexts he)) o)

theorem keeps_close : KeepsOn drops id (s.close id) := by
  intro h hs
  have hk := Keeps.start hs
  obtain ⟨deadline, hx | ⟨c, hx⟩ | ⟨c, n, hx⟩⟩ := Host.context_cases hs <;> rw [hx] at hk ⊢ <;>
    refine .bind_context hx ?_
  · exact .pure hk
  · have hput := hk.vacate deadline
    exact .bind (.store (.bind (.release fun o h' he =>
      then_keeps hput he (fun _ => .log (hput.of_contexts he)) o)))
  · exact .fail hk

/-- A deadline may be set at any time. -/
theorem keeps_setDeadline (deadline : Option Instant) : KeepsOn drops id (do
    let ctx ← Act.context id
    Act.store { ctx with deadline := deadline } : Act σ Unit) := by
  intro h hs
  have hk := Keeps.start hs
  exact .bind_context rfl (.store
    (hk.put (x := { h.context id with deadline := deadline }) (h.id_context id) hs))

/-! ### Transactions -/

variable {l : List Context} {c : ConnId} {deadline : Option Instant}

theorem takes_startTransaction (acquired : Bool) (hk : Keeps id l h (.connection c)) :
    (s.startTransaction (.idle id c deadline) acquired).Takes drops h (.connection c)
      fun _ h' hd => Keeps id l h' hd := by
  unfold startTransaction
  refine .bind (.budget hk fun b => .bind (.attempt (.callWithin_begin ?_ ?_ ?_)))
  · intro r h' he
    exact .bind (.store (.log ((hk.of_contexts he).enter c 0 deadline)))
  · intro f h' he
    cases acquired with
    | false => exact .fail (hk.of_contexts he)
    | true =>
        have hput := (hk.of_contexts he).vacate deadline
        exact .bind (.store (.bind (.discard rfl fun h'' he' => .fail (hput.of_contexts he'))))
  · intro p h' he
    exact hk.of_contexts he

theorem takes_joinTransaction {n : Nat} (hk : Keeps id l h (.transaction c)) :
    (joinTransaction (.opened id c (n + 1) deadline)).Takes drops h (.transaction c)
      fun _ h' hd => Keeps id l h' hd :=
  .bind (.store (.log (hk.enter c (n + 1) deadline)))

/-- What a begin leaves without a transaction is discarded after a panic. -/
theorem keeps_discardUnknown {hd : Handle} (hk : Keeps id l h hd) :
    (s.discardUnknown id).Takes drops h hd fun _ h' hd => Keeps id l h' hd := by
  obtain ⟨deadline, hx | ⟨c, hx⟩ | ⟨c, n, hx⟩⟩ := Host.context_cases hk.sound <;>
    obtain rfl := hk.handle_eq.symm.trans (congrArg Context.handle hx) <;>
    refine .bind_context hx ?_
  · exact .pure hk
  · have hput := hk.vacate deadline
    exact .bind (.store (.discard rfl fun h' he => hput.of_contexts he))
  · exact .pure hk

section
variable (hping : s.server.PingPanics → drops)
include hping

theorem keeps_beginUnguarded : KeepsOn drops id (s.beginUnguarded id) := by
  intro h hs
  have hk := Keeps.start hs
  obtain ⟨deadline, hx | ⟨c, hx⟩ | ⟨c, n, hx⟩⟩ := Host.context_cases hs <;> rw [hx] at hk ⊢ <;>
    refine .bind_context hx ?_
  · refine .bind ((takes_acquireVerified hping deadline).imp ?_)
    rintro o h' hd ⟨he, rfl⟩
    have hleft := hk.of_contexts he
    cases o with
    | value c =>
        have hput := hleft.put (x := .idle id c deadline) rfl (Context.sound_idle id c deadline)
        exact .bind (.store (.bind_context (Host.context_put rfl) (takes_startTransaction true hput)))
    | failure f => exact hleft
    | panic p => exact hleft
    | hang => exact hleft
  · exact .bind_context hx (takes_startTransaction false hk)
  · exact .bind_context hx (takes_joinTransaction hk)

theorem keeps_begin : KeepsOn drops id (s.begin id) := by
  intro h hs
  refine .observe (.bind (.settle ((keeps_beginUnguarded hping h hs).imp ?_)))
  intro o h' hd hk
  cases o with
  | value a => exact .pure hk
  | failure f => exact .fail hk
  | panic p =>
      refine .bind (.log (.bind ((keeps_discardUnknown hk).imp fun o h'' hd' hk' => ?_)))
      exact .intro (fun _ => .fail hk') (fun _ => hk') o
  | hang => exact hk

end

theorem keeps_commit : KeepsOn drops id (s.commit id) := by
  intro h hs
  have hk := Keeps.start hs
  refine .observe ?_
  obtain ⟨deadline, hx | ⟨c, hx⟩ | ⟨c, n, hx⟩⟩ := Host.context_cases hs <;> rw [hx] at hk ⊢ <;>
    refine .bind_context hx ?_
  · exact .fail hk
  · exact .fail hk
  cases n with
  | succ n => exact .bind (.store (.log (hk.enter c n deadline)))
  | zero =>
      refine .bind (.budget hk fun b => .bind (.callWithin_end (.inl rfl) ?_ ?_ ?_))
      · intro r h' he
        have hput := (hk.of_contexts he).vacate deadline
        refine .bind (.log (.bind (.store (.bind (.attempt (.release fun o h'' he' => ?_))))))
        have hleft := hput.of_contexts he'
        cases o with
        | value a => exact .pure hleft
        | failure f => exact .bind (.log (.fail hleft))
        | panic p => exact hleft
        | hang => exact hleft
      · exact fun f h' he => hk.of_contexts he
      · exact fun p h' he => hk.of_contexts he

theorem keeps_rollback : KeepsOn drops id (s.rollback id) := by
  intro h hs
  have hk := Keeps.start hs
  refine .observe ?_
  obtain ⟨deadline, hx | ⟨c, hx⟩ | ⟨c, n, hx⟩⟩ := Host.context_cases hs <;> rw [hx] at hk ⊢ <;>
    refine .bind_context hx ?_
  · exact .pure hk
  · exact .pure hk
  have hput {h' : Host σ} (he : h'.contexts = h.contexts) := (hk.of_contexts he).vacate deadline
  refine .bind (.budget hk fun b => .bind (.attempt (.callWithin_end (.inr rfl) ?_ ?_ ?_)))
  · intro r h' he
    exact .bind (.store (.bind (.log (.bind (.release fun o h'' he' => then_keeps (hput he) he'
      (fun _ => .pure ((hput he).of_contexts he')) o)))))
  · intro f h' he
    exact .bind (.store (.bind (.log (.bind (.discard rfl fun h'' he' =>
      .fail ((hput he).of_contexts he'))))))
  · intro p h' he
    exact hk.of_contexts he

theorem keeps_conclude : ∀ ended : Settled α, KeepsOn drops id (s.conclude id ended)
  | .value a => fun h hs => .bind ((keeps_commit h hs).imp fun o h' hd hk =>
      .intro (fun _ => .pure hk) (fun _ => hk) o)
  | .failure f => fun h hs => by
      refine .bind (.attempt ((keeps_rollback h hs).imp fun o h' hd hk => ?_))
      cases o with
      | value a => exact .fail hk
      | failure g => exact .fail hk
      | panic p => exact hk
      | hang => exact hk
  | .panic p => fun h hs => by
      refine .bind (.log (.bind (.attempt ((keeps_rollback h hs).imp fun o h' hd hk => ?_))))
      cases o with
      | value a => exact .panic hk
      | failure g => exact .bind (.log (.panic hk))
      | panic q => exact hk
      | hang => exact hk

/-! ### Statements -/

theorem conn?_ofHandle (hd : Handle) : (Target.ofHandle hd).conn? = hd.conn? := by
  cases hd <;> rfl

/-- A plain call on the target of a context, with a budget of its own. -/
theorem keeps_targetCall (operation : String) (secs : Nat) (call : Target → Call)
    (event : Reply → Event) (result : Reply → α) (hcall : ∀ t, (call t).isPlain = true)
    (ha : ∀ t, call t ≠ .acquire) (hc : ∀ t, (call t).conn? = t.conn?) :
    KeepsOn drops id (s.observe operation do
      let ctx ← Act.context id
      let b ← budget ctx.deadline secs
      let reply ← s.server.callWithin b operation (call (.ofHandle ctx.handle))
      Act.log (event reply)
      return result reply) := by
  intro h hs
  have hk := Keeps.start hs
  refine .observe (.bind_context rfl (.bind (.budget hk fun b => ?_)))
  refine .bind (.callWithin_plain (hcall _) (ha _) (fun c hconn => ?_) fun o h' he => ?_)
  · rw [← conn?_ofHandle, ← hc]
    exact hconn
  · exact then_keeps hk he (fun _ => .bind (.log (.pure (hk.of_contexts he)))) o

theorem keeps_select (sql : String) (lock : Bool) (params : List Param) :
    KeepsOn drops id (s.select id sql lock params) := by
  unfold select
  exact keeps_targetCall "select" _ (fun t => .fetch t _ params) _ _ (fun _ => rfl) (fun _ => nofun)
    fun _ => rfl

theorem keeps_execute (sql : String) (params : List Param) :
    KeepsOn drops id (s.execute id sql params) := by
  unfold execute
  exact keeps_targetCall "execute" _ (fun t => .execute t sql params) _ _ (fun _ => rfl)
    (fun _ => nofun) fun _ => rfl

/-- What holds of queries and of writes, and of acts done one after the other, holds of all statements. -/
theorem statementAct_rule (P : ∀ {α : Type}, Act σ α → Prop)
    (hpure : ∀ {α : Type} (a : α), P (Pure.pure a : Act σ α))
    (hfail : ∀ {α : Type} (f : Failure), P (Act.fail f : Act σ α))
    (hbind : ∀ {α β : Type} {x : Act σ α} {k : α → Act σ β}, P x → (∀ a, P (k a)) → P (x >>= k))
    (hselect : ∀ sql lock params, P (s.select id sql lock params))
    (hexecute : ∀ sql params, P (s.execute id sql params)) (kind : Rehearsal.StatementKind)
    (request : Rehearsal.Request) : P (Rehearsal.statementAct s id kind request) := by
  have hexcept {α : Type} (e : Except Failure α) : P (Act.ofExcept e : Act σ α) := by
    cases e with
    | ok a => exact hpure a
    | error f => exact hfail f
  cases request with
  | fault f => cases kind <;> exact hfail _
  | text sql lock params =>
      have hquery := hselect sql lock params
      have hwrite := hexecute sql params
      cases kind with
      | select => exact hbind hquery fun _ => hpure _
      | unique => exact hbind (hbind hquery fun _ => hexcept _) fun _ => hpure _
      | nonEmpty =>
          exact hbind (hbind (hbind hquery fun _ => hexcept _) fun _ => hexcept _) fun _ => hpure _
      | execute => exact hbind hwrite fun _ => hpure _
      | executeOne => exact hbind (hbind hwrite fun _ => hexcept _) fun _ => hpure _
  | template t =>
      have hquery : P (s.selectTemplate id t) :=
        hbind (hexcept _) fun (sql, params) => hselect sql false params
      have hwrite : P (s.executeTemplate id t) :=
        hbind (hexcept _) fun (sql, params) => hexecute sql params
      cases kind with
      | select => exact hbind hquery fun _ => hpure _
      | unique => exact hbind (hbind hquery fun _ => hexcept _) fun _ => hpure _
      | nonEmpty =>
          exact hbind (hbind (hbind hquery fun _ => hexcept _) fun _ => hexcept _) fun _ => hpure _
      | execute => exact hbind hwrite fun _ => hpure _
      | executeOne => exact hbind (hbind hwrite fun _ => hexcept _) fun _ => hpure _

theorem keeps_statementAct (kind : Rehearsal.StatementKind) (request : Rehearsal.Request) :
    KeepsOn drops id (Rehearsal.statementAct s id kind request) :=
  statementAct_rule (fun x => KeepsOn drops id x) .pure .fail .bind keeps_select keeps_execute kind
    request

end Service

end SqlSession
