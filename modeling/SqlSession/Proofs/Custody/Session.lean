import SqlSession.Proofs.Custody.Operations
import SqlSession.Proofs.Transaction.Flat

/-! # Sessions

A session is any number of operations on any number of contexts, in any order and however each of them
ends.  What the contexts hold and what the journal says fit together all the time (`Session.kept`).  So
connections are conserved (`connections_conserved`), and every call is in order for its connection
(`calls_in_order`). -/

namespace SqlSession

/-! ### Operations -/

/-- What may be done with the contexts of a service.  A transaction with a body is its begin, then
whatever the body does, and then the end that the body calls for. -/
inductive Operation where
  /-- A new context with a verified connection takes the place of the one of its id. -/
  | connection (id : String)
  | testConnection (id : String)
  | close (id : String)
  | begin (id : String)
  | commit (id : String)
  | rollback (id : String)
  | conclude (id : String) (ended : Settled Unit)
  | statement (id : String) (e : Errand)
  /-- A new context without a connection takes the place of the one of its id. -/
  | replace (id : String) (deadline : Option Instant)
  | setDeadline (id : String) (deadline : Option Instant)

namespace Operation

/-- What an operation does. -/
def act (s : Service σ) : Operation → Act σ Unit
  | connection id => s.connection id
  | testConnection id => s.testConnection id
  | close id => s.close id
  | begin id => s.begin id
  | commit id => s.commit id
  | rollback id => s.rollback id
  | conclude id ended => s.conclude id ended
  | statement id e => s.perform id e
  | replace id deadline => s.replaceContext (.vacant id deadline)
  | setDeadline id deadline => do
    let ctx ← Act.context id
    Act.store { ctx with deadline := deadline }

/-- Whether an operation overwrites a context that holds a connection. -/
def Overwrites (s : Service σ) (h : Host σ) : Operation → Prop
  | connection id => (s.connection id h).outcome = .value () ∧ (h.context id).handle ≠ .detached
  | replace id _ => (h.context id).handle ≠ .detached
  | _ => False

end Operation

/-- Operations one after the other, from a host on.  The server and the clock may change in between. -/
inductive Session (s : Service σ) (allowed : Operation → Host σ → Prop) (h₀ : Host σ) :
    List Entry → Host σ → Prop
  | start : Session s allowed h₀ [] h₀
  | operation {j : List Entry} {h : Host σ} (hs : Session s allowed h₀ j h) (o : Operation)
      (ho : allowed o h) : Session s allowed h₀ (j ++ (o.act s h).journal) (o.act s h).host
  | outside {j : List Entry} {h h' : Host σ} (hs : Session s allowed h₀ j h)
      (hc : h'.contexts = h.contexts) (hn : h'.handedOut = h.handedOut) : Session s allowed h₀ j h'

/-! ### Transactions with a body -/

/-- An end without its value. -/
def Settled.forget : Settled α → Settled Unit
  | value _ => .value ()
  | failure f => .failure f
  | panic p => .panic p

theorem Service.conclude_forget (s : Service σ) (id : String) (ended : Settled α) (h : Host σ) :
    (s.conclude id ended h).journal = (s.conclude id ended.forget h).journal ∧
    (s.conclude id ended h).host = (s.conclude id ended.forget h).host := by
  cases ended with
  | value a =>
      simp only [conclude, Settled.forget, Bind.bind, Act.bind]
      cases (s.commit id h).outcome <;> exact ⟨rfl, rfl⟩
  | failure f =>
      simp only [conclude, Settled.forget, Bind.bind, Act.bind, Act.attempt]
      cases (s.rollback id h).outcome <;> exact ⟨rfl, rfl⟩
  | panic p =>
      simp only [conclude, Settled.forget, Bind.bind, Act.bind, Act.attempt, Act.log, Act.write]
      cases (s.rollback id h).outcome <;> exact ⟨rfl, rfl⟩

/-- A transaction with a body is part of a session if the body is. -/
theorem Session.withTransaction {s : Service σ} {allowed : Operation → Host σ → Prop} {h₀ h : Host σ}
    {j : List Entry} {body : Act σ α} (hs : Session s allowed h₀ j h) (id : String)
    (hbegin : allowed (.begin id) h) (hconclude : ∀ ended h, allowed (.conclude id ended) h)
    (hbody : ∀ j h, Session s allowed h₀ j h → Session s allowed h₀ (j ++ (body h).journal) (body h).host) :
    Session s allowed h₀ (j ++ (s.withTransaction id body h).journal)
      (s.withTransaction id body h).host := by
  have hbegun := hs.operation (.begin id) hbegin
  have hrun := hbody _ _ hbegun
  simp only [Operation.act] at hbegun hrun
  have hend (ended : Settled α) := hrun.operation (.conclude id ended.forget) (hconclude _ _)
  simp only [Operation.act, ← (s.conclude_forget id _ _).1, ← (s.conclude_forget id _ _).2,
    List.append_assoc] at hend
  simp only [Service.withTransaction, Bind.bind, Act.bind, Act.settle]
  cases hb : (s.begin id h).outcome with
  | value a =>
      cases ho : (body (s.begin id h).host).outcome with
      | value v => exact hend (.value v)
      | failure f => exact hend (.failure f)
      | panic p => exact hend (.panic p)
      | hang => simpa using hrun
  | _ => exact hbegun

/-! ### What an operation preserves -/

/-- The custody of a host's connections, with what the operations rely on. -/
structure Kept (drops : Prop) (h : Host σ) (j : List Entry) : Prop where
  custody : Custody h.contexts h.handedOut j
  sound : ∀ id, (h.context id).Sound
  ids : (h.contexts.map Context.id).Nodup
  spared : ¬ drops → Journal.dropped j = []

namespace Kept

variable {s : Service σ} {drops : Prop} {h : Host σ} {j : List Entry} {id : String}

theorem start (state : σ) (now : Instant) : Kept drops (.fresh state now) [] where
  custody := .start
  sound id := Context.sound_vacant id none
  ids := List.nodup_nil
  spared _ := rfl

theorem of_keeps {h' : Host σ} {hd : Handle} {m : List Entry} (hk : Kept drops h j)
    (hkeep : Keeps id h.contexts h' hd) (hc : Custody h'.contexts h'.handedOut (j ++ m))
    (hm : ¬ drops → Journal.dropped m = []) : Kept drops h' (j ++ m) where
  custody := hc
  sound id' := by
    by_cases hid : id = id'
    · exact hid ▸ hkeep.sound
    · have hother := hk.sound id'
      rcases hkeep.aside with e | ⟨x, hx, e⟩
      · rwa [Host.context, e]
      · rwa [Host.context, e, Context.find_putInto_of_ne (by rwa [hx])]
  ids := by
    rcases hkeep.aside with e | ⟨x, hx, e⟩
    · rw [e]; exact hk.ids
    · rw [e]; exact Context.nodup_ids_putInto hk.ids
  spared hd := by
    rw [Journal.dropped, List.filterMap_append]
    simp only [Journal.dropped] at hm
    rw [hm hd, List.append_nil]
    exact hk.spared hd

theorem keepsOn (hk : Kept drops h j) {x : Act σ α} (hx : Service.KeepsOn drops id x) :
    Kept drops (x h).host (j ++ (x h).journal) := by
  obtain ⟨hd, hm, hkeep⟩ := hx h (hk.sound id)
  refine hk.of_keeps hkeep ?_ fun hdrops => hm.dropped_eq_nil hdrops
  obtain ⟨rest, hfront, hput⟩ := Custody.focus id h.contexts
  have hmoved := ((hfront []).mp hk.custody).moves hm _ hkeep.handle_eq
  rcases hkeep.aside with e | ⟨y, hy, e⟩
  · rw [Host.context, e] at hmoved
    rw [e]
    exact (hfront []).mpr hmoved
  · have hctx : (x h).host.context id = y := by
      rw [Host.context, e, ← hy]
      exact Context.find_putInto y _
    rw [hctx] at hmoved
    rw [e]
    exact (hput y hy).mpr hmoved

end Kept

/-! ### Replacing a context -/

theorem Service.replaceContext_custody {s : Service σ} {drops : Prop} {h : Host σ} {j : List Entry}
    {x : Context} (hc : Custody (x :: h.contexts) h.handedOut j)
    (hdrops : (h.context x.id).handle ≠ .detached → drops) :
    (s.replaceContext x h).host.contexts = x.putInto h.contexts ∧
    Custody (s.replaceContext x h).host.contexts (s.replaceContext x h).host.handedOut
      (j ++ (s.replaceContext x h).journal) ∧
    (¬ drops → Journal.dropped (s.replaceContext x h).journal = []) := by
  obtain ⟨rest, hfront, hput⟩ := Custody.focus x.id h.contexts
  have hc := (hfront [x]).mp hc
  cases hold : (h.context x.id).handle.conn? with
  | none =>
      have hdet : (Context.find x.id h.contexts).handle = .detached := by
        cases hh : (h.context x.id).handle <;> simp_all [Host.context]
      have e : s.replaceContext x h = ⟨.value (), h.put x, []⟩ := by
        simp [replaceContext, Bind.bind, Act.bind, Act.context, Act.read, Act.store, Act.modify, hold,
          Pure.pure, Act.pure, Host.put]
      rw [e]
      refine ⟨rfl, ?_, fun _ => rfl⟩
      rw [List.append_nil]
      exact (hput x rfl).mpr ((Custody.cons_detached hdet).mp hc)
  | some c =>
      have hd : drops := hdrops fun hdet => by simp [hdet] at hold
      have e : s.replaceContext x h = ⟨.value (),
          { h.put x with server := s.server.abandon h.server c }, [.dropped c]⟩ := by
        simp [replaceContext, Bind.bind, Act.bind, Act.context, Act.read, Act.store, Act.modify, hold,
          Server.drop, Host.put]
      rw [e]
      refine ⟨rfl, ?_, fun hnot => absurd hd hnot⟩
      have hmoved := hc.move (.vacant x.id none) (.dropped hold hd)
      exact (hput x rfl).mpr ((Custody.cons_detached rfl).mp hmoved)

theorem Service.replaceContext_outcome (s : Service σ) (x : Context) (h : Host σ) :
    (s.replaceContext x h).outcome = .value () := by
  simp only [replaceContext, Bind.bind, Act.bind, Act.context, Act.read, Act.store, Act.modify]
  cases (h.context x.id).handle.conn? <;> rfl

namespace Kept

variable {s : Service σ} {drops : Prop} {h : Host σ} {j : List Entry}

theorem of_replaced {x : Context} {h' : Host σ} {m : List Entry} (hk : Kept drops h j)
    (hx : x.Sound) (he : h'.contexts = x.putInto h.contexts)
    (hc : Custody h'.contexts h'.handedOut (j ++ m)) (hm : ¬ drops → Journal.dropped m = []) :
    Kept drops h' (j ++ m) := by
  have hctx : h'.context x.id = x := by rw [Host.context, he, Context.find_putInto]
  have hkeep : Keeps x.id h.contexts h' x.handle :=
    ⟨.inr ⟨x, rfl, he⟩, by rw [hctx], by rwa [hctx]⟩
  exact hk.of_keeps hkeep hc hm

theorem replaceContext (hk : Kept drops h j) (id : String) (deadline : Option Instant)
    (hdrops : (h.context id).handle ≠ .detached → drops) :
    Kept drops (s.replaceContext (.vacant id deadline) h).host
      (j ++ (s.replaceContext (.vacant id deadline) h).journal) := by
  have hc := (Custody.cons_detached (x := .vacant id deadline) rfl).mpr hk.custody
  obtain ⟨he, hc', hm⟩ := s.replaceContext_custody hc hdrops
  exact hk.of_replaced (Context.sound_vacant id deadline) he hc' hm

theorem of_acquired (hk : Kept drops h j) {x : Act σ ConnId}
    (hx : x.Takes drops h .detached fun o h' hd => h'.contexts = h.contexts ∧ hd = o.acquired)
    (id : String)
    (hdrops : ((x >>= fun c => s.replaceContext (.idle id c none)) h).outcome = .value () →
      (h.context id).handle ≠ .detached → drops) :
    Kept drops ((x >>= fun c => s.replaceContext (.idle id c none)) h).host
      (j ++ ((x >>= fun c => s.replaceContext (.idle id c none)) h).journal) := by
  obtain ⟨hd, hm, he, rfl⟩ := hx
  have hside := (Custody.cons_detached (x := .vacant id none) rfl).mpr hk.custody
  have hnone := fun hd => hm.dropped_eq_nil hd
  -- without a connection everything stays as it is
  have hfailed : (x h).outcome.acquired = .detached → Kept drops (x h).host (j ++ (x h).journal) := by
    intro hdet
    rw [hdet] at hm
    refine hk.of_keeps ((Keeps.start (hk.sound id)).of_contexts he) ?_ hnone
    rw [he]
    exact (Custody.cons_detached rfl).mp (hside.moves hm (.vacant id none) rfl)
  simp only [Bind.bind, Act.bind] at hdrops ⊢
  cases ho : (x h).outcome with
  | value c =>
      rw [ho] at hm hdrops
      have hc := hside.moves hm (.idle id c none) rfl
      rw [← he] at hc
      have hover : ((x h).host.context id).handle ≠ .detached → drops := by
        rw [Host.context, he]
        exact hdrops (s.replaceContext_outcome _ _)
      obtain ⟨he', hc', hm'⟩ := s.replaceContext_custody hc hover
      rw [List.append_assoc] at hc'
      refine hk.of_replaced (Context.sound_idle id c none) (he'.trans (by rw [he])) hc' fun hd => ?_
      rw [Journal.dropped, List.filterMap_append]
      exact List.append_eq_nil_iff.mpr ⟨hnone hd, hm' hd⟩
  | failure f => exact hfailed (by rw [ho]; rfl)
  | panic p => exact hfailed (by rw [ho]; rfl)
  | hang => exact hfailed (by rw [ho]; rfl)

theorem connection (hk : Kept drops h j) (hping : s.server.PingPanics → drops) (id : String)
    (hdrops : (s.connection id h).outcome = .value () → (h.context id).handle ≠ .detached → drops) :
    Kept drops (s.connection id h).host (j ++ (s.connection id h).journal) := by
  refine hk.of_acquired (.observe (.bind ((Service.takes_acquireVerified hping none).imp ?_))) id hdrops
  rintro o h' hd ⟨he, rfl⟩
  cases o with
  | value c => exact .bind (.log (.pure ⟨he, rfl⟩))
  | failure f => exact ⟨he, rfl⟩
  | panic p => exact ⟨he, rfl⟩
  | hang => exact ⟨he, rfl⟩

/-- **An operation keeps the custody.** -/
theorem operation (hk : Kept drops h j) (hping : s.server.PingPanics → drops) (o : Operation)
    (hdrops : o.Overwrites s h → drops) :
    Kept drops (o.act s h).host (j ++ (o.act s h).journal) := by
  cases o with
  | connection id => exact hk.connection hping id fun hok hheld => hdrops ⟨hok, hheld⟩
  | testConnection id => exact hk.keepsOn Service.keeps_testConnection
  | close id => exact hk.keepsOn Service.keeps_close
  | begin id => exact hk.keepsOn (Service.keeps_begin hping)
  | commit id => exact hk.keepsOn Service.keeps_commit
  | rollback id => exact hk.keepsOn Service.keeps_rollback
  | conclude id ended => exact hk.keepsOn (Service.keeps_conclude ended)
  | statement id e =>
      exact hk.keepsOn (.bind (Service.keeps_statementAct e.kind e.request) fun _ => .pure ())
  | replace id deadline => exact hk.replaceContext id deadline hdrops
  | setDeadline id deadline => exact hk.keepsOn (Service.keeps_setDeadline deadline)

end Kept

/-- **A session keeps the custody**, from a host on which nothing has been done. -/
theorem Session.kept {s : Service σ} (drops : Prop) {allowed : Operation → Host σ → Prop} {state : σ}
    {now : Instant} {j : List Entry} {h : Host σ}
    (hping : s.server.PingPanics → drops)
    (hdrops : ∀ o h, allowed o h → o.Overwrites s h → drops)
    (hs : Session s allowed (.fresh state now) j h) : Kept drops h j := by
  induction hs with
  | start => exact .start state now
  | operation _ o ho ih => exact ih.operation hping o (hdrops o _ ho)
  | outside _ hc hn ih =>
      refine ⟨?_, fun id => ?_, ?_, ih.spared⟩
      · rw [hc, hn]; exact ih.custody
      · rw [Host.context, hc]; exact ih.sound id
      · rw [hc]; exact ih.ids

/-! ### Connections are conserved -/

theorem Context.mem_held_iff {l : List Context} (hids : (l.map Context.id).Nodup) {c : ConnId} :
    c ∈ held l ↔ ∃ id, (find id l).handle.conn? = some c := by
  constructor
  · intro hc
    obtain ⟨x, hx, hxc⟩ := List.mem_filterMap.mp hc
    exact ⟨x.id, by rwa [find_of_mem hids hx]⟩
  · rintro ⟨id, hid⟩
    exact mem_held (mem_of_find hid) hid

theorem Custody.holder_unique {l : List Context} {n : Nat} {j : List Entry} (hc : Custody l n j)
    {c : ConnId} {id₁ id₂ : String} (h₁ : (Context.find id₁ l).handle.conn? = some c)
    (h₂ : (Context.find id₂ l).handle.conn? = some c) : id₁ = id₂ := by
  obtain ⟨rest, _, hfind⟩ := Context.exists_rest id₁ l
  rcases hfind with hperm | ⟨_, hnone⟩
  · have hrest := ((hc.perm hperm).elsewhere h₁).2.1
    rcases List.mem_cons.mp (hperm.mem_iff.mp (Context.mem_of_find h₂)) with heq | hmem
    · rw [← Context.id_find id₁ l, ← Context.id_find id₂ l, heq]
    · exact absurd (Context.mem_held hmem h₂) hrest
  · rw [hnone] at h₁
    cases h₁

/-- **Connections are conserved.**  In a session in which no ping panics and no context is overwritten
while it holds a connection, every connection handed out is in one place: it is held by one context, or
one release has consumed it, or one discard.  Other calls may panic. -/
theorem connections_conserved {s : Service σ} {state : σ} {now : Instant} {j : List Entry} {h : Host σ}
    (hcalm : ¬ s.server.PingPanics)
    (hs : Session s (fun o h => ¬ o.Overwrites s h) (.fresh state now) j h) :
    Journal.handedOut j = h.handedOut ∧
    (∀ c, (Context.held h.contexts).count c + (Journal.released j).count c +
      (Journal.discarded j).count c = if 1 ≤ c ∧ c ≤ h.handedOut then 1 else 0) ∧
    (∀ c, c ∈ Context.held h.contexts ↔ ∃ id, (h.context id).handle.conn? = some c) ∧
    (∀ id₁ id₂ c, (h.context id₁).handle.conn? = some c → (h.context id₂).handle.conn? = some c →
      id₁ = id₂) ∧
    (h.contexts.map Context.id).Nodup ∧
    (Context.held h.contexts).length + (Journal.released j).length + (Journal.discarded j).length =
      Journal.handedOut j := by
  have hk : Kept False h j := hs.kept False hcalm fun o h ho hover => ho hover
  have hnone := hk.spared not_false
  have honce := hk.custody.once
  rw [hnone, List.append_nil] at honce
  refine ⟨hk.custody.handedOut, fun c => ?_, fun c => Context.mem_held_iff hk.ids,
    fun id₁ id₂ c => hk.custody.holder_unique, hk.ids, ?_⟩
  · have hcount := honce.count_eq c
    rw [List.count_append, List.count_append, List.Nodup.count List.nodup_range'] at hcount
    simpa [List.mem_range'_1, Nat.lt_succ_iff, Nat.add_comm 1] using hcount
  · have hlength := honce.length_eq
    simp only [List.length_append, List.length_range'] at hlength
    rw [hk.custody.handedOut]
    omega

/-- A service of which every call is answered. -/
def Service.obliging : Service Unit := .plain fun _ => .reply .done

/-- A transaction that is committed while a second context holds a connection. -/
theorem connections_conserved_twoContexts : ∃ j h, ¬ Service.obliging.server.PingPanics ∧
    Session Service.obliging (fun o h => ¬ o.Overwrites Service.obliging h) (.fresh () 0) j h ∧
    h.handedOut = 2 ∧ Journal.handedOut j = h.handedOut ∧
    (∀ c, (Context.held h.contexts).count c + (Journal.released j).count c +
      (Journal.discarded j).count c = if 1 ≤ c ∧ c ≤ h.handedOut then 1 else 0) ∧
    (∀ c, c ∈ Context.held h.contexts ↔ ∃ id, (h.context id).handle.conn? = some c) ∧
    (∀ id₁ id₂ c, (h.context id₁).handle.conn? = some c → (h.context id₂).handle.conn? = some c →
      id₁ = id₂) ∧
    (h.contexts.map Context.id).Nodup ∧
    (Context.held h.contexts).length + (Journal.released j).length + (Journal.discarded j).length =
      Journal.handedOut j := by
  have hcalm : ¬ Service.obliging.server.PingPanics := by
    rintro ⟨_, _, _, hp⟩
    cases hp
  have hstart : Session Service.obliging (fun o h => ¬ o.Overwrites Service.obliging h) (.fresh () 0) []
      (.fresh () 0) := .start
  have hbegin := hstart.operation (.begin "a") id
  have hconnection := hbegin.operation (.connection "b") fun hover => hover.2 rfl
  have hcommit := hconnection.operation (.commit "a") id
  exact ⟨_, _, hcalm, hcommit, by decide +kernel, connections_conserved hcalm hcommit⟩

/-! ### Calls are in order -/

/-- **Calls are in order.**  In every session, whatever becomes of its calls, each call on a connection
comes before the release and the discard of it; a begin comes while no transaction is open, as far as the
server has said; commit and rollback come while one is; and a release comes while none is. -/
theorem calls_in_order {s : Service σ} {state : σ} {now : Instant} {j : List Entry} {h : Host σ}
    (hs : Session s (fun _ _ => True) (.fresh state now) j h) :
    ∀ before t after, j = before ++ .call t :: after → Journal.Lawful before t.call :=
  (hs.kept True (fun _ => trivial) fun _ _ _ _ => trivial).custody.lawful

/-- The calls of a transaction in a transaction. -/
theorem calls_in_order_nested : ∃ j h,
    Session Service.obliging (fun _ _ => True) (.fresh () 0) j h ∧ h.handedOut = 1 ∧
    ∀ before t after, j = before ++ .call t :: after → Journal.Lawful before t.call := by
  have hinner : ∀ j h, Session Service.obliging (fun _ _ => True) (.fresh () 0) j h →
      Session Service.obliging (fun _ _ => True) (.fresh () 0)
        (j ++ (Service.obliging.withTransaction "a" (Service.obliging.testConnection "a") h).journal)
        (Service.obliging.withTransaction "a" (Service.obliging.testConnection "a") h).host :=
    fun j h hs => hs.withTransaction "a" trivial (fun _ _ => trivial) fun j h hs =>
      hs.operation (.testConnection "a") trivial
  have hstart : Session Service.obliging (fun _ _ => True) (.fresh () 0) [] (.fresh () 0) := .start
  have hs := hstart.withTransaction "a" trivial (fun _ _ => trivial) hinner
  exact ⟨_, _, hs, by decide +kernel, calls_in_order hs⟩

end SqlSession
