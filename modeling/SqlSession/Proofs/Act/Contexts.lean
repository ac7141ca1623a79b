import Mathlib.Tactic.SplitIfs
import SqlSession.Proofs.Act.Trace

/-! # Contexts of a host

Stored contexts are found again (`context_put`), and a later store under the same id hides an earlier
one (`put_put`).  An act that neither reads nor stores a context gives the same run whatever the
contexts are, and leaves them as they are (`Act.Aloof`).
-/

namespace SqlSession

namespace Context

theorem id_find (id : String) : ∀ l : List Context, (find id l).id = id
  | [] => rfl
  | c :: r => by
      unfold find
      split_ifs with hc
      · exact hc
      · exact id_find id r

theorem find_putInto (c : Context) : ∀ l : List Context, find c.id (c.putInto l) = c
  | [] => by simp [putInto, find]
  | d :: r => by
      unfold putInto
      split_ifs with hd
      · simp [find]
      · simp only [find, if_neg hd]
        exact find_putInto c r

theorem find_putInto_of_ne {c : Context} {id : String} (hne : c.id ≠ id) :
    ∀ l : List Context, find id (c.putInto l) = find id l
  | [] => by simp [putInto, find, hne]
  | d :: r => by
      unfold putInto
      split_ifs with hd
      · have hd' : d.id ≠ id := fun e => hne (hd.symm.trans e)
        simp [find, hne, hd']
      · simp only [find]
        rw [find_putInto_of_ne hne r]

theorem putInto_putInto {c d : Context} (he : d.id = c.id) :
    ∀ l : List Context, d.putInto (c.putInto l) = d.putInto l
  | [] => by simp [putInto, he]
  | e :: r => by
      by_cases hc : e.id = c.id
      · simp [putInto, hc, he]
      · have hd : ¬ e.id = d.id := fun hd => hc (hd.trans he)
        simp only [putInto, if_neg hc, if_neg hd]
        rw [putInto_putInto he r]

/-- Storing what was found changes nothing, unless nothing was found. -/
theorem putInto_find {id : String} : ∀ {l : List Context}, (find id l).handle ≠ .detached →
    (find id l).putInto l = l
  | [], h => absurd rfl h
  | c :: r, h => by
      by_cases hc : c.id = id
      · simp [find, putInto, hc]
      · simp only [find, if_neg hc] at h ⊢
        have hne : c.id ≠ (find id r).id := by rwa [id_find]
        simp only [putInto, if_neg hne]
        rw [putInto_find h]

/-- Apart from the context of an id, which may be missing, the list stays what it is. -/
theorem exists_rest (id : String) : ∀ l : List Context, ∃ rest,
    (∀ c : Context, c.id = id → (c.putInto l).Perm (c :: rest)) ∧
    (l.Perm (find id l :: rest) ∨ l = rest ∧ find id l = detached id)
  | [] => ⟨[], fun c _ => by simp [putInto], .inr ⟨rfl, rfl⟩⟩
  | d :: r => by
      by_cases hd : d.id = id
      · refine ⟨r, fun c hc => ?_, .inl ?_⟩
        · simp [putInto, hd, hc]
        · simp [find, hd]
      · obtain ⟨rest, hput, hfind⟩ := exists_rest id r
        refine ⟨d :: rest, fun c hc => ?_, ?_⟩
        · have hne : ¬ d.id = c.id := by rwa [hc]
          rw [putInto, if_neg hne]
          exact ((hput c hc).cons d).trans (.swap c d rest)
        · rw [find, if_neg hd]
          rcases hfind with hperm | ⟨rfl, hnone⟩
          · exact .inl ((hperm.cons d).trans (.swap _ d rest))
          · exact .inr ⟨rfl, hnone⟩

theorem mem_ids_putInto {c : Context} {id : String} : ∀ {l : List Context},
    id ∈ (c.putInto l).map Context.id → id = c.id ∨ id ∈ l.map Context.id
  | [], h => by simpa [putInto] using h
  | d :: r, h => by
      by_cases hd : d.id = c.id
      · simp only [putInto, if_pos hd, List.map_cons, List.mem_cons] at h ⊢
        exact h.imp_right .inr
      · simp only [putInto, if_neg hd, List.map_cons, List.mem_cons] at h ⊢
        rcases h with h | h
        · exact .inr (.inl h)
        · exact (mem_ids_putInto h).imp_right .inr

theorem nodup_ids_putInto {c : Context} : ∀ {l : List Context}, (l.map Context.id).Nodup →
    ((c.putInto l).map Context.id).Nodup
  | [], _ => by simp [putInto]
  | d :: r, h => by
      rw [List.map_cons, List.nodup_cons] at h
      by_cases hd : d.id = c.id
      · rw [putInto, if_pos hd, List.map_cons, List.nodup_cons, ← hd]
        exact h
      · rw [putInto, if_neg hd, List.map_cons, List.nodup_cons]
        refine ⟨fun hmem => ?_, nodup_ids_putInto h.2⟩
        rcases mem_ids_putInto hmem with he | hr
        · exact hd he
        · exact h.1 hr

/-- A stored context is the one of its id. -/
theorem find_of_mem {c : Context} : ∀ {l : List Context}, (l.map Context.id).Nodup → c ∈ l →
    find c.id l = c
  | d :: r, hn, hc => by
      rw [List.map_cons, List.nodup_cons] at hn
      rcases List.mem_cons.mp hc with rfl | hr
      · simp [find]
      · have hne : ¬ d.id = c.id := fun he => hn.1 (he ▸ List.mem_map_of_mem hr)
        rw [find, if_neg hne]
        exact find_of_mem hn.2 hr

theorem mem_of_find {id : String} {l : List Context} {c : ConnId}
    (h : (find id l).handle.conn? = some c) : find id l ∈ l := by
  obtain ⟨rest, _, hperm | ⟨_, hnone⟩⟩ := exists_rest id l
  · exact hperm.mem_iff.mpr List.mem_cons_self
  · rw [hnone] at h
    cases h

/-! ### The states of a context -/

/-- A context that holds nothing. -/
def vacant (id : String) (deadline : Option Instant) : Context := ⟨id, .detached, 0, deadline⟩

/-- A context with a connection and no transaction. -/
def idle (id : String) (c : ConnId) (deadline : Option Instant) : Context :=
  ⟨id, .connection c, 0, deadline⟩

/-- A context with a transaction on `c`. -/
def opened (id : String) (c : ConnId) (level : Nat) (deadline : Option Instant) : Context :=
  ⟨id, .transaction c, level, deadline⟩

/-- A context counts begins exactly while it is in a transaction. -/
def Sound (x : Context) : Prop := x.handle.inTransaction = true ↔ 0 < x.level

theorem sound_vacant (id : String) (deadline : Option Instant) : (vacant id deadline).Sound := by
  simp [Sound, vacant, Handle.inTransaction]

theorem sound_idle (id : String) (c : ConnId) (deadline : Option Instant) :
    (idle id c deadline).Sound := by
  simp [Sound, idle, Handle.inTransaction]

theorem sound_opened (id : String) (c : ConnId) (n : Nat) (deadline : Option Instant) :
    (opened id c (n + 1) deadline).Sound := by
  simp [Sound, opened, Handle.inTransaction]

/-- A sound context is in one of three states. -/
theorem Sound.cases {x : Context} (hs : x.Sound) : x = vacant x.id x.deadline ∨
    (∃ c, x = idle x.id c x.deadline) ∨ ∃ c n, x = opened x.id c (n + 1) x.deadline := by
  obtain ⟨id, handle, level, deadline⟩ := x
  cases handle with
  | detached =>
      obtain rfl : level = 0 := by simpa [Sound, Handle.inTransaction] using hs
      exact .inl rfl
  | connection c =>
      obtain rfl : level = 0 := by simpa [Sound, Handle.inTransaction] using hs
      exact .inr (.inl ⟨c, rfl⟩)
  | transaction c =>
      have hl : 0 < level := by simpa [Sound, Handle.inTransaction] using hs
      obtain ⟨n, rfl⟩ := Nat.exists_eq_succ_of_ne_zero (Nat.pos_iff_ne_zero.mp hl)
      exact .inr (.inr ⟨c, n, rfl⟩)

end Context

namespace Host

/-- A host with a context stored. -/
def put (h : Host σ) (c : Context) : Host σ := { h with contexts := c.putInto h.contexts }

@[simp] theorem trace_store (c : Context) :
    (Act.store c : Act σ Unit).trace = fun h => ⟨.value (), h.put c, []⟩ := rfl

/-- A host with other contexts. -/
def withContexts (h : Host σ) (l : List Context) : Host σ := { h with contexts := l }

theorem id_context (h : Host σ) (id : String) : (h.context id).id = id := Context.id_find id _

/-- The context of an id, if it is sound, is in one of three states. -/
theorem context_cases {h : Host σ} {id : String} (hs : (h.context id).Sound) : ∃ deadline,
    h.context id = .vacant id deadline ∨ (∃ c, h.context id = .idle id c deadline) ∨
      ∃ c n, h.context id = .opened id c (n + 1) deadline := by
  have hcases := hs.cases
  rw [h.id_context] at hcases
  exact ⟨_, hcases⟩

/-- A sound context of a positive level has a transaction. -/
theorem exists_opened {h : Host σ} {id : String} (hs : (h.context id).Sound)
    (hl : (h.context id).level ≠ 0) : ∃ c n deadline, h.context id = .opened id c (n + 1) deadline := by
  obtain ⟨deadline, hx | ⟨c, hx⟩ | ⟨c, n, hx⟩⟩ := context_cases hs
  · exact absurd (by rw [hx]; rfl) hl
  · exact absurd (by rw [hx]; rfl) hl
  · exact ⟨c, n, deadline, hx⟩

theorem context_put {h : Host σ} {c : Context} {id : String} (hid : c.id = id) :
    (h.put c).context id = c := by
  subst hid
  exact Context.find_putInto c h.contexts

theorem put_put {h : Host σ} {c d : Context} (hid : d.id = c.id) : (h.put c).put d = h.put d := by
  simp only [put, Context.putInto_putInto hid]

theorem put_context {h : Host σ} {c : Context} {id : String} (hc : h.context id = c)
    (hh : c.handle ≠ .detached) : h.put c = h := by
  subst hc
  simp only [put, context, Context.putInto_find hh]

end Host

/-- A run with other contexts in the end. -/
def Run.withContexts (r : Run σ α) (l : List Context) : Run σ α :=
  { r with host := r.host.withContexts l }

/-- A trace with other contexts in the end. -/
def Trace.withContexts (t : Trace σ α) (l : List Context) : Trace σ α :=
  { t with host := t.host.withContexts l }

namespace Act

/-- Whether an act has nothing to do with the contexts of its host. -/
def Aloof (x : Act σ α) : Prop :=
  ∀ (h : Host σ) (l : List Context), x (h.withContexts l) = (x h).withContexts l

namespace Aloof

theorem contexts_eq {x : Act σ α} (hx : x.Aloof) (h : Host σ) : (x h).host.contexts = h.contexts := by
  have e : x h = (x h).withContexts h.contexts := hx h h.contexts
  exact congrArg (fun r : Run σ α => r.host.contexts) e

theorem trace_eq {x : Act σ α} (hx : x.Aloof) (h : Host σ) (l : List Context) :
    x.trace (h.withContexts l) = (x.trace h).withContexts l := by
  simp only [trace, hx h l, Run.withContexts, Trace.withContexts, Run.trips]

theorem context_eq {x : Act σ α} (hx : x.Aloof) (h : Host σ) (id : String) :
    (x.trace h).host.context id = h.context id :=
  congrArg (Context.find id) (hx.contexts_eq h)

/-- An act that has nothing to do with contexts can as well be done before one is stored. -/
theorem trace_put {x : Act σ α} (hx : x.Aloof) (h : Host σ) (c : Context) :
    x.trace (h.put c) = ⟨(x.trace h).outcome, (x.trace h).host.put c, (x.trace h).trips⟩ := by
  have e : (x.trace h).host.put c = (x.trace h).host.withContexts (c.putInto h.contexts) := by
    simp only [Host.put, Host.withContexts, trace, hx.contexts_eq h]
  rw [e]
  exact hx.trace_eq h (c.putInto h.contexts)

theorem pure (a : α) : (Pure.pure a : Act σ α).Aloof := fun _ _ => rfl

theorem fail (f : Failure) : (Act.fail f : Act σ α).Aloof := fun _ _ => rfl

theorem panic (p : Payload) : (Act.panic p : Act σ α).Aloof := fun _ _ => rfl

theorem log (e : Event) : (Act.log e : Act σ Unit).Aloof := fun _ _ => rfl

theorem ofExcept : ∀ e : Except Failure α, (Act.ofExcept e : Act σ α).Aloof
  | .ok a => pure a
  | .error f => fail f

theorem bind {x : Act σ α} {k : α → Act σ β} (hx : x.Aloof) (hk : ∀ a, (k a).Aloof) :
    (x >>= k).Aloof := by
  intro h l
  simp only [Bind.bind, Act.bind, hx h l, Run.withContexts]
  cases ho : (x h).outcome with
  | value a => simp only [hk a (x h).host l, Run.withContexts]
  | _ => rfl

theorem settle {x : Act σ α} (hx : x.Aloof) : (Act.settle x).Aloof := by
  intro h l
  simp only [Act.settle, hx h l, Run.withContexts]
  cases (x h).outcome <;> rfl

theorem attempt {x : Act σ α} (hx : x.Aloof) : (Act.attempt x).Aloof := by
  intro h l
  simp only [Act.attempt, hx h l, Run.withContexts]
  cases (x h).outcome <;> rfl

theorem callWithin (server : Server σ) (b : Budget) (operation : String) (c : Call) :
    (server.callWithin b operation c).Aloof := by
  intro h l
  by_cases hb : b.deadline ≤ h.now
  · simp [Server.callWithin, Host.withContexts, Run.withContexts, hb]
  · by_cases hr : (server.react h.server c).1.ending = .never ∨
        b.deadline < h.now + (server.react h.server c).1.delay
    · simp [Server.callWithin, Host.withContexts, Run.withContexts, hb, hr]
    · simp [Server.callWithin, Host.withContexts, Run.withContexts, hb, hr]

theorem call (server : Server σ) (c : Call) : (server.call c).Aloof := fun _ _ => rfl

theorem discard (server : Server σ) (c : ConnId) : (server.discard c).Aloof := fun _ _ => rfl

theorem drop (server : Server σ) (c : ConnId) : (server.drop c).Aloof := fun _ _ => rfl

theorem handOut : (Server.handOut : Act σ ConnId).Aloof := fun _ _ => rfl

theorem budget (deadline : Option Instant) (secs : Nat) :
    (Service.budget deadline secs : Act σ Budget).Aloof := by
  intro h l
  by_cases hb : Service.clockLimit ≤ h.now + secs * 1000
  · simp [Service.budget, Host.withContexts, Run.withContexts, hb]
  · simp [Service.budget, Host.withContexts, Run.withContexts, hb]

end Aloof
end Act

end SqlSession
