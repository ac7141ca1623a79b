import SqlSession.Proofs.Custody.Session
import SqlSession.Proofs.Transaction.Place

/-! # Panics while beginning

A call that panics ends the act that has made it (`Act.Breaks`): nothing is called after it, and nothing
is dropped, except for the connection whose ping it was.  A begin catches the panic, discards what the
context holds, and fails.  So every connection that was in its hands is discarded exactly once
(`begin_panics`), with one exception: nobody has yet stored the connection that a ping panics on, and it
is dropped (`explosivePing_drops`). -/

namespace SqlSession

/-- The connection that a call pings. -/
def Call.pinged? : Call → Option ConnId
  | ping c => some c
  | _ => none

/-- A run in which a call that panics is the end of it.  Nothing is dropped, unless it is the connection
whose ping has panicked. -/
structure Run.Breaks (r : Run σ α) : Prop where
  panicked : ∀ t ∈ r.trips, ∀ p, t.ending = .panic p →
    r.outcome = .panic p ∧ Journal.dropped r.journal = t.call.pinged?.toList
  calm : (∀ t ∈ r.trips, ∀ p, t.ending ≠ .panic p) → Journal.dropped r.journal = []

namespace Run.Breaks

variable {r : Run σ α}

theorem of_calm (hcalm : ∀ t ∈ r.trips, ∀ p, t.ending ≠ .panic p)
    (hdrop : Journal.dropped r.journal = []) : r.Breaks :=
  ⟨fun t ht p hp => absurd hp (hcalm t ht p), fun _ => hdrop⟩

theorem not_panicked (hr : r.Breaks) (ho : ∀ p, r.outcome ≠ .panic p) :
    ∀ t ∈ r.trips, ∀ p, t.ending ≠ .panic p :=
  fun t ht p hp => ho p (hr.panicked t ht p hp).1

theorem pass {r' : Run σ β} (hr : r.Breaks) (hj : r'.journal = r.journal)
    (ho : ∀ p, r.outcome = .panic p → r'.outcome = .panic p) : r'.Breaks := by
  have htrips : r'.trips = r.trips := by rw [Run.trips, hj, Run.trips]
  refine ⟨fun t ht p hp => ?_, fun hquiet => ?_⟩
  · rw [htrips] at ht
    obtain ⟨hpanic, hdropped⟩ := hr.panicked t ht p hp
    exact ⟨ho p hpanic, by rw [hj, hdropped]⟩
  · rw [htrips] at hquiet
    rw [hj]
    exact hr.calm hquiet

/-- What was done before without a panic makes no difference. -/
theorem after {before : Run σ β} (hb : before.Breaks) (ho : ∀ p, before.outcome ≠ .panic p)
    (hr : r.Breaks) : Run.Breaks ⟨r.outcome, r.host, before.journal ++ r.journal⟩ := by
  have hcalm := hb.not_panicked ho
  have hdropped : Journal.dropped (before.journal ++ r.journal) = Journal.dropped r.journal := by
    rw [Journal.dropped, List.filterMap_append]
    exact congrArg (· ++ _) (hb.calm hcalm)
  have htrips : Run.trips ⟨r.outcome, r.host, before.journal ++ r.journal⟩ = before.trips ++ r.trips :=
    List.filterMap_append
  refine ⟨fun t ht p hp => ?_, fun hquiet => ?_⟩
  · rw [htrips, List.mem_append] at ht
    rw [hdropped]
    exact hr.panicked t (ht.resolve_left fun hmem => hcalm t hmem p hp) p hp
  · rw [hdropped]
    refine hr.calm fun t ht => hquiet t ?_
    rw [htrips]
    exact List.mem_append_right _ ht

end Run.Breaks

/-- Whether every run of an act is ended by a call that panics. -/
def Act.Breaks (x : Act σ α) : Prop := ∀ h, (x h).Breaks

namespace Act.Breaks

variable {server : Server σ}

theorem of_journal_nil {x : Act σ α} (hx : ∀ h, (x h).journal = []) : x.Breaks :=
  fun h => .of_calm (fun t ht => by simp [Run.trips, hx h] at ht) (by rw [hx h]; rfl)

theorem pure (a : α) : (Pure.pure a : Act σ α).Breaks := of_journal_nil fun _ => rfl

theorem fail (f : Failure) : (Act.fail f : Act σ α).Breaks := of_journal_nil fun _ => rfl

theorem context (id : String) : (Act.context id : Act σ Context).Breaks := of_journal_nil fun _ => rfl

theorem store (c : Context) : (Act.store c : Act σ Unit).Breaks := of_journal_nil fun _ => rfl

theorem handOut : (Server.handOut : Act σ ConnId).Breaks := of_journal_nil fun _ => rfl

theorem log (e : Event) : (Act.log e : Act σ Unit).Breaks :=
  fun _ => .of_calm (fun _ ht => by cases ht) rfl

theorem budget (deadline : Option Instant) (secs : Nat) :
    (Service.budget deadline secs : Act σ Budget).Breaks := by
  refine of_journal_nil fun h => ?_
  rcases Service.budget_cases deadline secs h with ⟨_, e⟩ | ⟨_, b, _, _, e⟩ <;> rw [e]

theorem discard (c : ConnId) : (server.discard c).Breaks := by
  refine fun h => .of_calm (fun t ht p => ?_) rfl
  obtain rfl := List.mem_singleton.mp ht
  exact nofun

theorem callWithin {call : Call} (hcall : call.pinged? = none) (b : Budget) (operation : String) :
    (server.callWithin b operation call).Breaks := by
  intro h
  rcases server.callWithin_cases b operation call h with ⟨_, e⟩ | ⟨_, t, state, ha, _, e⟩ <;> rw [e]
  · exact .of_calm (fun _ hu => by cases hu) rfl
  · refine ⟨fun u hu p hp => ?_, fun _ => rfl⟩
    obtain rfl := List.mem_singleton.mp hu
    refine ⟨by simp [RoundTrip.outcome, hp, Ending.outcome], ?_⟩
    rw [ha.call_eq, hcall]
    rfl

theorem bind {x : Act σ α} {k : α → Act σ β} (hx : x.Breaks) (hk : ∀ a, (k a).Breaks) :
    (x >>= k).Breaks := by
  intro h
  cases ho : (x h).outcome with
  | value a =>
      rw [bind_of_value ho]
      exact (hx h).after (by rw [ho]; exact nofun) (hk a (x h).host)
  | _ =>
      simp only [Bind.bind, Act.bind, ho]
      exact (hx h).pass rfl (by rw [ho]; simp)

theorem attempt {x : Act σ α} (hx : x.Breaks) : (Act.attempt x).Breaks := by
  intro h
  simp only [Act.attempt]
  cases ho : (x h).outcome <;> exact (hx h).pass rfl (by rw [ho]; simp)

/-- A ping of a candidate, after which the candidate is dropped if the ping has panicked. -/
theorem ping {c : ConnId} {k : Settled Reply → Act σ α} (hv : ∀ r, (k (.value r)).Breaks)
    (hf : ∀ f, (k (.failure f)).Breaks)
    (hp : ∀ p, k (.panic p) = server.drop c >>= fun _ => Act.panic p) (b : Budget)
    (operation : String) :
    (Act.settle (server.callWithin b operation (.ping c)) >>= k).Breaks := by
  intro h
  rcases server.callWithin_cases b operation (.ping c) h with ⟨_, e⟩ | ⟨_, t, state, ha, _, e⟩
  · have hset : Act.settle (server.callWithin b operation (.ping c)) h =
        ⟨.value (.failure (.timeout operation b.secs)), h, []⟩ := by
      simp only [Act.settle, e]
    rw [bind_of_value (by rw [hset]), hset]
    exact hf _ h
  -- a ping that has not panicked is followed by an act that breaks
  have hnext : ∀ ended, (∀ p, t.ending ≠ .panic p) →
      t.outcome b operation = Settled.outcome ended → (k ended).Breaks →
      ((Act.settle (server.callWithin b operation (.ping c)) >>= k) h).Breaks := by
    intro ended hquiet ho hk
    have hset : Act.settle (server.callWithin b operation (.ping c)) h =
        ⟨.value ended, h.afterTrip state t, [.call t]⟩ := by
      cases ended <;> simp only [Act.settle, e, ho, Settled.outcome]
    have hcalm : Run.Breaks ⟨.value ended, h.afterTrip state t, [.call t]⟩ := by
      refine .of_calm (fun u hu => ?_) rfl
      obtain rfl := List.mem_singleton.mp hu
      exact hquiet
    rw [bind_of_value (by rw [hset]), hset]
    exact hcalm.after (fun p hp => by cases hp) (hk _)
  cases he : t.ending with
  | reply r =>
      refine hnext (.value r) (by simp [he]) ?_ (hv r)
      simp [RoundTrip.outcome, he, Ending.outcome, Settled.outcome]
  | failure f =>
      refine hnext (.failure f) (by simp [he]) ?_ (hf f)
      simp [RoundTrip.outcome, he, Ending.outcome, Settled.outcome]
  | never =>
      refine hnext (.failure (.timeout operation b.secs)) (by simp [he]) ?_ (hf _)
      simp [RoundTrip.outcome, he, Settled.outcome]
  | panic p =>
      have hset : Act.settle (server.callWithin b operation (.ping c)) h =
          ⟨.value (.panic p), h.afterTrip state t, [.call t]⟩ := by
        simp only [Act.settle, e, RoundTrip.outcome, he, Ending.outcome]
      rw [bind_of_value (by rw [hset]), hset, hp]
      refine ⟨fun u hu q hq => ?_, fun hquiet => absurd he (hquiet t List.mem_cons_self p)⟩
      obtain rfl := List.mem_singleton.mp hu
      obtain rfl : p = q := by rwa [he, Ending.panic.injEq] at hq
      refine ⟨rfl, ?_⟩
      rw [ha.call_eq]
      rfl

end Act.Breaks

namespace Service

variable {s : Service σ} {id : String}

theorem breaks_tryConnect (deadline : Option Instant) : (s.tryConnect deadline).Breaks := by
  refine .bind (.budget _ _) fun b => .bind (.callWithin (by rfl) _ _) fun _ => .bind .handOut fun c => ?_
  refine .ping (fun r => .pure c) (fun f => ?_) (fun p => rfl) _ _
  exact .bind (.discard c) fun _ => .fail f

theorem breaks_connectWithin (deadline : Option Instant) : ∀ left next,
    (s.connectWithin deadline left next).Breaks
  | 0, next => .bind (.log _) fun _ => .fail _
  | left + 1, next => by
      refine .bind (.attempt (breaks_tryConnect deadline)) fun ended => ?_
      cases ended with
      | ok c => exact .pure c
      | error f => exact .bind (.log _) fun _ => breaks_connectWithin deadline left (next + 1)

theorem breaks_startTransaction (ctx : Context) (acquired : Bool) :
    (s.startTransaction ctx acquired).Breaks := by
  refine .bind (.budget _ _) fun b => ?_
  cases ctx.handle.conn? with
  | none => exact .fail _
  | some c =>
      refine .bind (.attempt (.callWithin (by rfl) _ _)) fun ended => ?_
      cases ended with
      | ok r => exact .bind (.store _) fun _ => .log _
      | error f =>
          cases acquired with
          | false => exact .fail f
          | true => exact .bind (.store _) fun _ => .bind (.discard c) fun _ => .fail f

theorem breaks_beginUnguarded : (s.beginUnguarded id).Breaks := by
  refine .bind (.context id) fun ctx => ?_
  have hheld : (do
      let held ← Act.context id
      if held.level = 0 then s.startTransaction held ctx.handle.isDetached
      else joinTransaction held : Act σ Unit).Breaks := by
    refine .bind (.context id) fun held => ?_
    split
    · exact breaks_startTransaction held _
    · unfold joinTransaction
      split
      · exact .fail _
      · exact .bind (.store _) fun _ => .log _
  split
  · exact .bind (breaks_connectWithin _ _ _) fun c => .bind (.store _) fun _ => hheld
  · exact hheld

/-! ### What a begin does after a panic -/

variable {h : Host σ} {p : Payload}

/-- Cleaning up goes well. -/
theorem discardUnknown_succeeds (s : Service σ) (id : String) (h : Host σ) :
    (s.discardUnknown id h).outcome = .value () ∧
    Journal.dropped (s.discardUnknown id h).journal = [] ∧
    ∀ t ∈ (s.discardUnknown id h).trips, t.succeeded = true := by
  by_cases hl : (h.context id).level = 0 <;> cases hc : (h.context id).handle.conn? <;>
    simp [discardUnknown, Bind.bind, Act.bind, Act.context, Act.read, hl, hc, Pure.pure, Act.pure,
      Act.store, Act.modify, Server.discard, Run.trips, Entry.trip?, RoundTrip.succeeded,
      Journal.dropped]

theorem dropped_samples (l : List Sample) : Journal.dropped (l.map Entry.sample) = [] := by
  induction l with
  | nil => rfl
  | cons a l ih => exact ih

/-- A begin catches a panic, cleans up and fails. -/
theorem begin_of_panic (ho : (s.beginUnguarded id h).outcome = .panic p) :
    (s.begin id h).outcome = .failure (.transaction ("begin failed: " ++ p.message) id) ∧
    (s.begin id h).host = (s.discardUnknown id (s.beginUnguarded id h).host).host ∧
    Journal.dropped (s.begin id h).journal = Journal.dropped (s.beginUnguarded id h).journal := by
  obtain ⟨hend, hnone, -⟩ := s.discardUnknown_succeeds id (s.beginUnguarded id h).host
  simp only [begin, observe, Bind.bind, Act.bind, Act.settle, ho, Act.log, Act.write, hend, Act.fail]
  refine ⟨trivial, trivial, ?_⟩
  have hsamples := dropped_samples
  simp only [Journal.dropped, List.filterMap_append] at hnone hsamples ⊢
  simp [hnone, hsamples, Entry.dropped?]

/-- A panic leaves the context without a transaction. -/
theorem context_of_panic (hs : (h.context id).Sound)
    (ho : ((s.beginUnguarded id).trace h).outcome = .panic p) : ∃ deadline,
    ((s.beginUnguarded id).trace h).host.context id = .vacant id deadline ∨
    ∃ c, ((s.beginUnguarded id).trace h).host.context id = .idle id c deadline := by
  -- a transaction that could not be started because of a panic
  have hidle : ∀ {h' : Host σ} {c : ConnId} {deadline : Option Instant} (acquired : Bool),
      h'.context id = .idle id c deadline →
      ((s.startTransaction (.idle id c deadline) acquired).trace h').outcome = .panic p →
      ((s.startTransaction (.idle id c deadline) acquired).trace h').host.context id =
        .idle id c deadline := by
    intro h' c deadline acquired hx hpanic
    rcases trace_startTransaction (s := s) acquired hx with
      ⟨t, _, _, _, _, hst⟩ | ⟨f, _, l, m, _, _, hst⟩ | ⟨q, h'', l, hleft, _, hst⟩ <;>
      rw [hst] at hpanic ⊢
    · cases hpanic
    · cases hpanic
    · exact hleft
  obtain ⟨deadline, hx | ⟨c, hx⟩ | ⟨c, n, hx⟩⟩ := Host.context_cases hs
  · have hctx := (s.aloof_acquireVerified deadline).context_eq h id
    rcases hacq : (s.acquireVerified deadline).trace h with ⟨o, h', l⟩
    rw [hacq, hx] at hctx
    cases o with
    | value c =>
        have hun := trace_beginUnguarded_of_acquired (s := s) hx hacq
        rw [hun] at ho ⊢
        exact ⟨deadline, .inr ⟨c, hidle true (Host.context_put rfl) ho⟩⟩
    | _ =>
        refine ⟨deadline, .inl ?_⟩
        simpa [beginUnguarded, hx, Context.vacant, Handle.isDetached, hacq] using hctx
  · rw [trace_beginUnguarded_of_idle hx] at ho ⊢
    exact ⟨deadline, .inr ⟨c, hidle false hx ho⟩⟩
  · simp [beginUnguarded, joinTransaction, hx, Context.opened, Handle.isDetached,
      Handle.inTransaction] at ho

/-- And the cleaning up leaves it without a connection. -/
theorem vacant_of_panic (hs : (h.context id).Sound) (ho : (s.beginUnguarded id h).outcome = .panic p) :
    ∃ deadline, (s.begin id h).host.context id = .vacant id deadline := by
  obtain ⟨-, hhost, -⟩ := begin_of_panic ho
  rw [hhost]
  obtain ⟨deadline, hleft | ⟨c, hleft⟩⟩ := context_of_panic (s := s) hs ho
  · exact ⟨deadline, (congrArg (fun r : Trace σ Unit => r.host.context id)
      (trace_discardUnknown_of_vacant (s := s) hleft)).trans hleft⟩
  · obtain ⟨h', d, _, hctx, hd⟩ := trace_discardUnknown (s := s) hleft
    exact ⟨deadline, (congrArg (fun r : Trace σ Unit => r.host.context id) hd).trans hctx⟩

end Service

/-! ### Panics in sessions -/

theorem Journal.released_eq_nil {j : List Entry}
    (hj : ∀ t ∈ j.filterMap Entry.trip?, t.call.released? = none) : released j = [] := by
  rw [released, List.filterMap_eq_nil_iff]
  intro e he
  cases e with
  | call t => exact hj t (List.mem_filterMap.mpr ⟨_, he, rfl⟩)
  | _ => rfl

theorem ConnId.count_toList (o : Option ConnId) (c : Nat) :
    o.toList.count c = if o = some c then 1 else 0 := by
  cases o with
  | none => rfl
  | some d => simp [List.count_singleton]

/-- What moves pass on and hand out, counted. -/
theorem Moves.count_eq {drops : Prop} {hd hd' : Handle} {n n' : Nat} {l : List Entry}
    (hm : Moves drops hd n l hd' n') (hheld : ∀ c, hd.conn? = some c → c ≤ n) (c : Nat) :
    hd'.conn?.toList.count c + (Journal.released l).count c + (Journal.discarded l).count c +
      (Journal.dropped l).count c = if hd.conn? = some c ∨ n < c ∧ c ≤ n' then 1 else 0 := by
  obtain ⟨new, hrange, hpass⟩ := hm.once
  -- what is handed out on the way is counted from `n` on
  have hnew : new.count c = if n < c ∧ c ≤ n' then 1 else 0 := by
    have hcount : (List.range' 1 n').count c = (List.range' 1 n).count c + new.count c := by
      rw [hrange, List.count_append]
    have hle : n ≤ n' := hm.handedOut_le
    rw [List.Nodup.count List.nodup_range', List.Nodup.count List.nodup_range'] at hcount
    simp only [List.mem_range'_1] at hcount
    split_ifs at hcount ⊢ <;> omega
  rw [hpass c, hnew, ConnId.count_toList]
  by_cases hc : hd.conn? = some c
  · have hlow : ¬ (n < c ∧ c ≤ n') := fun hhigh => Nat.not_lt.mpr (hheld c hc) hhigh.1
    rw [if_pos hc, if_neg hlow, if_pos (.inl hc)]
  · rw [if_neg hc, Nat.zero_add]
    simp only [hc, false_or]

/-- **What a panic does to a begin.**  In every session, if a call of a begin panics, the begin fails,
its context is detached, and nothing is released.  The connection that the context held and those that
the begin has acquired are discarded, each exactly once; only the connection whose ping has panicked is
dropped instead. -/
theorem begin_panics {s : Service σ} {state : σ} {now : Instant} {j : List Entry} {h : Host σ}
    (hs : Session s (fun _ _ => True) (.fresh state now) j h) {id : String} {t : RoundTrip} {p : Payload}
    (ht : t ∈ (s.begin id h).trips) (hp : t.ending = .panic p) :
    (s.begin id h).outcome = .failure (.transaction ("begin failed: " ++ p.message) id) ∧
    ((s.begin id h).host.context id).handle = .detached ∧
    ((s.begin id h).host.context id).level = 0 ∧
    Journal.released (s.begin id h).journal = [] ∧
    Journal.dropped (s.begin id h).journal = t.call.pinged?.toList ∧
    ∀ c, (Journal.discarded (s.begin id h).journal).count c =
      if ((h.context id).handle.conn? = some c ∨
          h.handedOut < c ∧ c ≤ (s.begin id h).host.handedOut) ∧
        t.call.pinged? ≠ some c then 1 else 0 := by
  have hk : Kept True h j := hs.kept True (fun _ => trivial) fun _ _ _ _ => trivial
  have hun : t ∈ (s.beginUnguarded id h).trips := by
    rcases Service.mem_trips_begin (s := s) ht with hun | ⟨h', hd⟩
    · exact hun
    · have hsucceeds := (s.discardUnknown_succeeds id h').2.2 t hd
      simp [RoundTrip.succeeded, hp] at hsucceeds
  obtain ⟨hpanic, hdrop⟩ := (Service.breaks_beginUnguarded h).panicked t hun p hp
  obtain ⟨houtcome, -, hdropped⟩ := Service.begin_of_panic hpanic
  rw [hdrop] at hdropped
  obtain ⟨deadline, hvacant⟩ := Service.vacant_of_panic (hk.sound id) hpanic
  have hreleased : Journal.released (s.begin id h).journal = [] := by
    apply Journal.released_eq_nil
    intro u hu
    exact Call.released?_of_isBeginning (Service.begin_makes h u hu)
  refine ⟨houtcome, by rw [hvacant]; rfl, by rw [hvacant]; rfl, hreleased, hdropped, fun c => ?_⟩
  -- every connection is in one place, and the context holds none any more
  have hkeeps : Service.KeepsOn True id (s.begin id) := Service.keeps_begin fun _ => trivial
  obtain ⟨hd, hm, hkeep⟩ := hkeeps h (hk.sound id)
  obtain rfl : .detached = hd := by rw [← hkeep.handle_eq, hvacant]; rfl
  have hheld : ∀ c, (h.context id).handle.conn? = some c → c ≤ h.handedOut := by
    intro c hc
    obtain ⟨rest, hfront, -⟩ := Custody.focus id h.contexts
    exact Nat.not_lt.mp (((hfront []).mp hk.custody).elsewhere hc).1
  have hcount := hm.count_eq hheld c
  rw [hreleased, hdropped] at hcount
  simp only [Handle.conn?_detached, Option.toList_none, List.count_nil, Nat.zero_add,
    ConnId.count_toList t.call.pinged? c] at hcount
  by_cases hping : t.call.pinged? = some c
  · rw [if_pos hping] at hcount
    rw [if_neg fun hboth => hboth.2 hping]
    split_ifs at hcount
    omega
  · rw [if_neg hping, Nat.add_zero] at hcount
    rw [hcount]
    simp only [hping, ne_eq, not_false_eq_true, and_true]

/-- A service of which every ping of a connection panics. -/
def Service.explosivePing : Service Unit := .plain fun
  | .ping _ => .panic (.text "boom")
  | _ => .reply .done

/-- A ping panics, and the begin fails with nothing left in its context. -/
theorem begin_panics_explosivePing : ∃ t ∈ (Service.explosivePing.begin "a" (.fresh () 0)).trips,
    t.ending = .panic (.text "boom") ∧
    Session Service.explosivePing (fun _ _ => True) (.fresh () 0) [] (.fresh () 0) ∧
    let run := Service.explosivePing.begin "a" (.fresh () 0)
    run.outcome = .failure (.transaction ("begin failed: " ++ (Payload.text "boom").message) "a") ∧
    (run.host.context "a").handle = .detached ∧ (run.host.context "a").level = 0 ∧
    Journal.released run.journal = [] ∧ Journal.dropped run.journal = t.call.pinged?.toList ∧
    ∀ c, (Journal.discarded run.journal).count c =
      if (((Host.fresh () 0).context "a").handle.conn? = some c ∨
          (Host.fresh () 0).handedOut < c ∧ c ≤ run.host.handedOut) ∧
        t.call.pinged? ≠ some c then 1 else 0 := by
  have hs : Session Service.explosivePing (fun _ _ => True) (.fresh () 0) [] (.fresh () 0) := .start
  have hping : (⟨.ping 1, 0, 0, .panic (.text "boom")⟩ : RoundTrip) ∈
      (Service.explosivePing.begin "a" (.fresh () 0)).trips := List.mem_cons_of_mem _ List.mem_cons_self
  exact ⟨_, hping, rfl, hs, begin_panics hs hping rfl⟩

/-- The connection whose ping has panicked is dropped and not discarded. -/
theorem explosivePing_drops :
    let run := Service.explosivePing.begin "a" (.fresh () 0)
    Session Service.explosivePing (fun _ _ => True) (.fresh () 0) [] (.fresh () 0) ∧
    (∃ t ∈ run.trips, t.ending = .panic (.text "boom")) ∧ run.host.handedOut = 1 ∧
    Journal.discarded run.journal = [] ∧ Journal.dropped run.journal = [1] := by
  refine ⟨.start, ⟨⟨.ping 1, 0, 0, .panic (.text "boom")⟩, ?_, rfl⟩, rfl, rfl, rfl⟩
  exact List.mem_cons_of_mem _ List.mem_cons_self

end SqlSession
