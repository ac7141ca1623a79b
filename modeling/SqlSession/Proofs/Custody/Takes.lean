import SqlSession.Proofs.Act.Calls
import SqlSession.Proofs.Custody.Moves

/-! # Acts that move a connection

`Act.Takes` says of an act that the entries of its journal are moves of one handle, and what holds of its
outcome, of the host and of the handle in the end.  There is one rule for each way to build an act; the
rules for calls say what becomes of the handle. -/

namespace SqlSession

/-- Whether the entries of an act move a handle, to where the last condition holds. -/
def Act.Takes (drops : Prop) (x : Act σ α) (h : Host σ) (hd : Handle)
    (Q : Outcome α → Host σ → Handle → Prop) : Prop :=
  ∃ hd', Moves drops hd h.handedOut (x h).journal hd' (x h).host.handedOut ∧
    Q (x h).outcome (x h).host hd'

/-- What has to hold after the first of two acts. -/
abbrev Act.Then (drops : Prop) (k : α → Act σ β) (Q : Outcome β → Host σ → Handle → Prop) :
    Outcome α → Host σ → Handle → Prop
  | .value a, h, hd => (k a).Takes drops h hd Q
  | .failure f, h, hd => Q (.failure f) h hd
  | .panic p, h, hd => Q (.panic p) h hd
  | .hang, h, hd => Q .hang h hd

theorem Act.Then.intro {drops : Prop} {k : α → Act σ β} {Q : Outcome β → Host σ → Handle → Prop}
    {h : Host σ} {hd : Handle} (hv : ∀ a, (k a).Takes drops h hd Q) (hq : ∀ o, Q o h hd) :
    ∀ o, Act.Then drops k Q o h hd
  | .value a => hv a
  | .failure f => hq (.failure f)
  | .panic p => hq (.panic p)
  | .hang => hq .hang

namespace Act.Takes

variable {drops : Prop} {h : Host σ} {hd : Handle}

theorem imp {x : Act σ α} {Q R : Outcome α → Host σ → Handle → Prop} (hx : x.Takes drops h hd Q)
    (hQ : ∀ o h' hd', Q o h' hd' → R o h' hd') : x.Takes drops h hd R := by
  obtain ⟨hd', hm, hq⟩ := hx
  exact ⟨hd', hm, hQ _ _ _ hq⟩

/-! ### Acts without calls -/

section
variable {Q : Outcome α → Host σ → Handle → Prop}

theorem pure {a : α} (hq : Q (.value a) h hd) : (Pure.pure a : Act σ α).Takes drops h hd Q :=
  ⟨hd, .none, hq⟩

theorem fail {f : Failure} (hq : Q (.failure f) h hd) : (Act.fail f).Takes drops h hd Q :=
  ⟨hd, .none, hq⟩

theorem panic {p : Payload} (hq : Q (.panic p) h hd) : (Act.panic p).Takes drops h hd Q :=
  ⟨hd, .none, hq⟩

theorem bind {x : Act σ β} {k : β → Act σ α} (hx : x.Takes drops h hd (Act.Then drops k Q)) :
    (x >>= k).Takes drops h hd Q := by
  obtain ⟨hd', hm, hq⟩ := hx
  unfold Takes
  simp only [Bind.bind, Act.bind]
  cases ho : (x h).outcome with
  | value a =>
      rw [ho] at hq
      obtain ⟨hd'', hm', hq'⟩ := hq
      exact ⟨hd'', hm.append hm', hq'⟩
  | failure f => rw [ho] at hq; exact ⟨hd', hm, hq⟩
  | panic p => rw [ho] at hq; exact ⟨hd', hm, hq⟩
  | hang => rw [ho] at hq; exact ⟨hd', hm, hq⟩

end

theorem settle {x : Act σ α} {Q : Outcome (Settled α) → Host σ → Handle → Prop}
    (hx : x.Takes drops h hd fun o => Q o.settled) : (Act.settle x).Takes drops h hd Q := by
  obtain ⟨hd', hm, hq⟩ := hx
  unfold Takes
  simp only [Act.settle]
  cases ho : (x h).outcome <;> rw [ho] at hq <;> exact ⟨hd', hm, hq⟩

theorem attempt {x : Act σ α} {Q : Outcome (Except Failure α) → Host σ → Handle → Prop}
    (hx : x.Takes drops h hd fun o => Q o.attempted) : (Act.attempt x).Takes drops h hd Q := by
  obtain ⟨hd', hm, hq⟩ := hx
  unfold Takes
  simp only [Act.attempt]
  cases ho : (x h).outcome <;> rw [ho] at hq <;> exact ⟨hd', hm, hq⟩

theorem log {e : Event} {Q : Outcome Unit → Host σ → Handle → Prop} (hq : Q (.value ()) h hd) :
    (Act.log e).Takes drops h hd Q := ⟨hd, .single (.event e), hq⟩

/-- A context is read off the host, and its state is known. -/
theorem bind_context {id : String} {k : Context → Act σ α} {Q : Outcome α → Host σ → Handle → Prop}
    {x : Context} (hx : h.context id = x) (hk : (k x).Takes drops h hd Q) :
    (Act.context id >>= k).Takes drops h hd Q := by
  subst hx
  exact bind ⟨hd, .none, hk⟩

theorem store {c : Context} {Q : Outcome Unit → Host σ → Handle → Prop}
    (hq : Q (.value ()) (h.put c) hd) : (Act.store c).Takes drops h hd Q := ⟨hd, .none, hq⟩

theorem budget {deadline : Option Instant} {secs : Nat} {Q : Outcome Budget → Host σ → Handle → Prop}
    (hclock : Q (.panic clockFault) h hd) (hq : ∀ b, Q (.value b) h hd) :
    (Service.budget deadline secs).Takes drops h hd Q := by
  rcases Service.budget_cases deadline secs h with ⟨_, e⟩ | ⟨_, b, _, _, e⟩
  · exact ⟨hd, by rw [e]; exact .none, by rw [e]; exact hclock⟩
  · exact ⟨hd, by rw [e]; exact .none, by rw [e]; exact hq b⟩

theorem observe {s : Service σ} {operation : String} {x : Act σ α}
    {Q : Outcome α → Host σ → Handle → Prop} (hx : x.Takes drops h hd Q) :
    (s.observe operation x).Takes drops h hd Q := by
  have hsamples : ∀ (l : List Sample) (hd : Handle) (n : Nat),
      Moves drops hd n (l.map Entry.sample) hd n := by
    intro l hd n
    induction l with
    | nil => exact .none
    | cons a l ih => exact (Moves.single (.sample a)).append ih
  obtain ⟨hd', hm, hq⟩ := hx
  exact ⟨hd', hm.append (hsamples _ hd' _), hq⟩

/-! ### Calls -/

section
variable {server : Server σ} {c : ConnId} {b : Budget} {operation : String}
  {Q : Outcome Reply → Host σ → Handle → Prop}

/-- What holds of a call of which nothing is known holds of a call that was not made. -/
theorem callWithin {call : Call} (hlate : ∀ f, Q (.failure f) h hd)
    (hmade : ∀ t state, server.Answers h call t → ∃ hd',
      Move drops hd h.handedOut (.call t) hd' h.handedOut ∧
      Q (t.outcome b operation) (h.afterTrip state t) hd') :
    (server.callWithin b operation call).Takes drops h hd Q := by
  rcases server.callWithin_cases b operation call h with ⟨_, e⟩ | ⟨_, t, state, ha, _, e⟩
  · exact ⟨hd, by rw [e]; exact .none, by rw [e]; exact hlate _⟩
  · obtain ⟨hd', hm, hq⟩ := hmade t state ha
    exact ⟨hd', by rw [e]; exact .single hm, by rw [e]; exact hq⟩

/-- A plain call, on the connection of the context or on none, leaves everything where it is. -/
theorem callWithin_plain {call : Call} (hcall : call.isPlain = true) (ha : call ≠ .acquire)
    (hc : ∀ c, call.conn? = some c → hd.conn? = some c)
    (hq : ∀ o h', h'.contexts = h.contexts → Q o h' hd) :
    (server.callWithin b operation call).Takes drops h hd Q := by
  refine callWithin (fun _ => hq _ h rfl) fun t state hans => ⟨hd, ?_, hq _ (h.afterTrip state t) rfl⟩
  have hcalls := hans.call_eq
  subst hcalls
  exact .plain hcall (fun ht => absurd ht ha) hc

theorem callWithin_begin
    (hq : ∀ r h', h'.contexts = h.contexts → Q (.value r) h' (.transaction c))
    (hf : ∀ f h', h'.contexts = h.contexts → Q (.failure f) h' (.connection c))
    (hp : ∀ p h', h'.contexts = h.contexts → Q (.panic p) h' (.connection c)) :
    (server.callWithin b operation (.begin c)).Takes drops h (.connection c) Q := by
  refine callWithin (fun f => hf f h rfl) fun t state ha => ⟨_, .begun ha.call_eq, ?_⟩
  rcases t.outcome_cases b operation with ⟨hs, r, ho⟩ | ⟨hs, f, ho⟩ | ⟨hs, p, _, ho⟩ <;>
    simp only [hs, ho, if_true, if_false, Bool.false_eq_true]
  · exact hq r _ rfl
  · exact hf f _ rfl
  · exact hp p _ rfl

/-- After a commit or a rollback that was answered the connection is idle. -/
theorem callWithin_end {call : Call} (hc : call = .commit c ∨ call = .rollback c)
    (hq : ∀ r h', h'.contexts = h.contexts → Q (.value r) h' (.connection c))
    (hf : ∀ f h', h'.contexts = h.contexts → Q (.failure f) h' (.transaction c))
    (hp : ∀ p h', h'.contexts = h.contexts → Q (.panic p) h' (.transaction c)) :
    (server.callWithin b operation call).Takes drops h (.transaction c) Q := by
  refine callWithin (fun f => hf f h rfl) fun t state ha => ⟨_, .ended (ha.call_eq ▸ hc), ?_⟩
  rcases t.outcome_cases b operation with ⟨hs, r, ho⟩ | ⟨hs, f, ho⟩ | ⟨hs, p, _, ho⟩ <;>
    simp only [hs, ho, if_true, if_false, Bool.false_eq_true]
  · exact hq r _ rfl
  · exact hf f _ rfl
  · exact hp p _ rfl

/-- Whatever becomes of a release, the connection is gone. -/
theorem release (hq : ∀ o h', h'.contexts = h.contexts → Q o h' .detached) :
    (server.call (.release c)).Takes drops h (.connection c) Q :=
  ⟨.detached, .single (.released rfl), hq _ _ rfl⟩

end

section
variable {server : Server σ} {c : ConnId} {b : Budget} {Q : Outcome Unit → Host σ → Handle → Prop}

theorem discard (hc : hd.conn? = some c)
    (hq : ∀ h', h'.contexts = h.contexts → Q (.value ()) h' .detached) :
    (server.discard c).Takes drops h hd Q :=
  ⟨.detached, .single (.discarded hc rfl), hq _ rfl⟩

theorem drop (hc : hd.conn? = some c) (hdrops : drops)
    (hq : ∀ h', h'.contexts = h.contexts → Q (.value ()) h' .detached) :
    (server.drop c).Takes drops h hd Q :=
  ⟨.detached, .single (.dropped hc hdrops), hq _ rfl⟩

end

/-- An acquire that is answered hands out one more connection. -/
theorem acquire {server : Server σ} {b : Budget} {k : ConnId → Act σ α}
    {Q : Outcome α → Host σ → Handle → Prop}
    (hq : ∀ c h', h'.contexts = h.contexts → (k c).Takes drops h' (.connection c) Q)
    (hf : ∀ f h', h'.contexts = h.contexts → Q (.failure f) h' .detached)
    (hp : ∀ p h', h'.contexts = h.contexts → Q (.panic p) h' .detached) :
    (server.callWithin b "acquire" .acquire >>= fun _ => Server.handOut >>= k).Takes drops h
      .detached Q := by
  rcases server.callWithin_cases b "acquire" .acquire h with ⟨_, e⟩ | ⟨_, t, state, ha, _, e⟩
  · unfold Takes
    simp only [Bind.bind, Act.bind, e]
    exact ⟨.detached, .none, hf _ h rfl⟩
  have hnone (hs : t.succeeded = false) :
      Moves drops .detached h.handedOut [.call t] .detached h.handedOut :=
    .single (.plain (by rw [ha.call_eq]; rfl) (fun _ => hs) (by simp [ha.call_eq, Call.conn?]))
  rcases t.outcome_cases b "acquire" with ⟨hs, r, ho⟩ | ⟨hs, f, ho⟩ | ⟨hs, p, _, ho⟩
  · obtain ⟨hd', hm, hk⟩ := hq (h.handedOut + 1)
      { h.afterTrip state t with handedOut := h.handedOut + 1 } rfl
    unfold Takes
    simp only [Bind.bind, Act.bind, e, ho, Server.handOut, Host.handedOut_afterTrip, List.nil_append]
    exact ⟨hd', (Moves.single (.acquired ha.call_eq hs)).append hm, hk⟩
  · unfold Takes
    simp only [Bind.bind, Act.bind, e, ho]
    exact ⟨.detached, hnone hs, hf f _ rfl⟩
  · unfold Takes
    simp only [Bind.bind, Act.bind, e, ho]
    exact ⟨.detached, hnone hs, hp p _ rfl⟩

end Act.Takes

end SqlSession
