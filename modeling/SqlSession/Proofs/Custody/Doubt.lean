import SqlSession.Proofs.Custody.Session
import SqlSession.Proofs.Transaction.Place

/-! # Connections in doubt

When a begin is given up, nobody knows whether the server has begun a transaction.  The connection is in
doubt from then on, until a commit or a rollback on it succeeds (`RoundTrip.InDoubt`).

A begin discards the connection it has acquired itself when it gives up, and keeps the one that the
context held before (`Service.begin_given_up`).  A commit and a rollback hand a connection back right
after they have succeeded on it, and no other operation than a close hands one back at all
(`Operation.release_cases`).  So of all operations it is the close that passes a connection in doubt on
to the pool, and it does so whenever its context holds one (`released_in_doubt`). -/

namespace SqlSession

/-! ### Doubt -/

namespace RoundTrip

/-- Whether a round trip has ended the transaction of a connection. -/
def Ends (c : ConnId) (t : RoundTrip) : Prop :=
  (t.call = .commit c ∨ t.call = .rollback c) ∧ t.succeeded = true

/-- Whether a begin on a connection has been given up, and nothing has ended its transaction since. -/
def InDoubt (c : ConnId) (l : List RoundTrip) : Prop :=
  ∃ before t after, l = before ++ t :: after ∧ t.call = .begin c ∧ t.ending = .never ∧
    ∀ u ∈ after, ¬ u.Ends c

variable {c : ConnId} {l m : List RoundTrip}

/-- The begin itself raises the doubt. -/
theorem InDoubt.of_mem {t : RoundTrip} (ht : t ∈ m) (hcall : t.call = .begin c)
    (hending : t.ending = .never) (hm : ∀ u ∈ m, ¬ u.Ends c) : InDoubt c (l ++ m) := by
  obtain ⟨before, after, rfl⟩ := List.append_of_mem ht
  refine ⟨l ++ before, t, after, by simp, hcall, hending, fun u hu => hm u ?_⟩
  exact List.mem_append_right before (List.mem_cons_of_mem t hu)

/-- An end that has just succeeded leaves no doubt. -/
theorem not_inDoubt_of_ends {u : RoundTrip} (hu : u.Ends c) : ¬ InDoubt c (l ++ [u]) := by
  rintro ⟨before, t, after, he, hcall, -, hafter⟩
  rcases List.eq_nil_or_concat after with rfl | ⟨after', a, rfl⟩
  · obtain ⟨-, hlast⟩ := List.append_inj' he rfl
    obtain rfl : u = t := by simpa using hlast
    rcases hu.1 with hend | hend <;> rw [hcall] at hend <;> cases hend
  · rw [List.concat_eq_append, ← List.cons_append, ← List.append_assoc] at he
    obtain ⟨-, hlast⟩ := List.append_inj' he rfl
    obtain rfl : u = a := by simpa using hlast
    exact hafter u (by simp) hu

/-- Round trips that release nothing, or the end of a transaction and the release after it. -/
inductive Clears : List RoundTrip → Prop
  | none {l : List RoundTrip} (hl : ∀ t ∈ l, t.call.released? = none) : Clears l
  | ended {t r : RoundTrip} {c : ConnId} (ht : t.Ends c) (hr : r.call = .release c) : Clears [t, r]

theorem Clears.of_eq_nil (he : l = []) : Clears l := .none (by simp [he])

/-- What is released has just been cleared. -/
theorem Clears.exists_ends {before after : List RoundTrip} {t : RoundTrip}
    (hl : Clears (before ++ t :: after)) (ht : t.call = .release c) : ∃ u, before = [u] ∧ u.Ends c := by
  generalize he : before ++ t :: after = l at hl
  cases hl with
  | none hl =>
      have hnone := hl t (by rw [← he]; simp)
      rw [ht] at hnone
      cases hnone
  | @ended u r d hu hr =>
      match before, he with
      | [], he =>
          obtain ⟨rfl, -⟩ := List.cons.inj he
          rcases hu.1 with hend | hend <;> rw [ht] at hend <;> cases hend
      | [v], he =>
          obtain ⟨rfl, hrest⟩ := List.cons.inj he
          obtain ⟨rfl, -⟩ := List.cons.inj hrest
          obtain rfl : d = c := by simpa [hr] using ht
          exact ⟨v, rfl, hu⟩
      | v :: w :: rest, he => simp at he

end RoundTrip

open RoundTrip (InDoubt)

/-! ### What an operation releases -/

/-- Whether what an act releases it has just cleared. -/
def Act.Clears (x : Act σ α) (h : Host σ) : Prop := RoundTrip.Clears (x h).trips

namespace Act.Clears

variable {h : Host σ} {c : ConnId}

theorem of_eq_nil {x : Act σ α} (hx : (x h).trips = []) : x.Clears h :=
  RoundTrip.Clears.of_eq_nil hx

theorem of_makes {x : Act σ α} (hx : x.Makes fun call => call.released? = none) : x.Clears h :=
  .none (hx h)

theorem of_trips_eq {x : Act σ α} {y : Act σ β} (hy : y.Clears h)
    (he : (x.trace h).trips = (y.trace h).trips) : x.Clears h := by
  unfold Clears
  rwa [show (x h).trips = (y h).trips from he]

theorem observe {s : Service σ} {operation : String} {x : Act σ α} (hx : x.Clears h) :
    (s.observe operation x).Clears h := hx.of_trips_eq (by rw [Service.trace_observe])

theorem bind_context {id : String} {k : Context → Act σ α} {x : Context} (hx : h.context id = x)
    (hk : (k x).Clears h) : (Act.context id >>= k).Clears h := by
  refine hk.of_trips_eq ?_
  rw [trace_context_bind, hx]

theorem bind_budget {deadline : Option Instant} {secs : Nat} {k : Budget → Act σ α}
    (hk : ∀ b, (k b).Clears h) : (Service.budget deadline secs >>= k).Clears h := by
  rcases Service.trace_budget deadline secs h with ⟨_, hb⟩ | ⟨b, hb⟩
  · apply of_eq_nil
    suffices he : ((Service.budget deadline secs >>= k).trace h).trips = [] from he
    simp only [trace_bind, hb, Trace.andThen_panic]
  · refine (hk b).of_trips_eq ?_
    simp only [trace_bind, hb, Trace.andThen_value, Trace.after_nil]

/-- The end of a transaction, after which the connection is released if the end has succeeded. -/
theorem bind_attempt {server : Server σ} {b : Budget} {operation : String} {call : Call}
    {k : Except Failure Reply → Act σ α} (hcall : call = .commit c ∨ call = .rollback c)
    (hok : ∀ a h, ∃ r, r.call = .release c ∧ ((k (.ok a)).trace h).trips = [r])
    (herror : ∀ f, (k (.error f)).Makes fun call => call.released? = none) :
    (Act.attempt (server.callWithin b operation call) >>= k).Clears h := by
  suffices hc : RoundTrip.Clears
    ((Act.attempt (server.callWithin b operation call) >>= k).trace h).trips from hc
  have hend : call.released? = none := by
    rcases hcall with rfl | rfl <;> rfl
  simp only [Act.trace_bind, Act.trace_attempt]
  rcases server.trace_callWithin b operation call h with ⟨_, hw⟩ | ⟨t, state, ha, hw⟩ <;> rw [hw]
  · exact .none (herror _ h)
  rcases t.outcome_cases b operation with ⟨hs, a, ho⟩ | ⟨_, f, ho⟩ | ⟨_, p, _, ho⟩ <;>
    rw [ho, Trace.withOutcome_mk]
  · obtain ⟨r, hr, htrips⟩ := hok a (h.afterTrip state t)
    rw [show Outcome.attempted (.value a) = .value (.ok a) from rfl, Trace.andThen_value,
      Trace.trips_after, htrips]
    exact .ended ⟨by rwa [ha.call_eq], hs⟩ hr
  · rw [show (Outcome.failure f : Outcome Reply).attempted = .value (.error f) from rfl,
      Trace.andThen_value, Trace.trips_after]
    refine .none fun u hu => ?_
    rcases List.mem_cons.mp hu with rfl | hu
    · rw [ha.call_eq, hend]
    · exact herror f _ u hu
  · refine .none fun u hu => ?_
    obtain rfl := List.mem_singleton.mp hu
    rw [ha.call_eq, hend]

end Act.Clears

namespace Service

variable {s : Service σ} {id : String} {c : ConnId} {deadline : Option Instant} {h : Host σ}

theorem clears_commit (hs : (h.context id).Sound) : (s.commit id).Clears h := by
  suffices hc : RoundTrip.Clears ((s.commit id).trace h).trips from hc
  obtain ⟨deadline, hx | ⟨c, hx⟩ | ⟨c, n, hx⟩⟩ := Host.context_cases hs
  · rw [trace_commit_of_closed (by rw [hx]; rfl)]
    exact .of_eq_nil rfl
  · rw [trace_commit_of_closed (by rw [hx]; rfl)]
    exact .of_eq_nil rfl
  cases n with
  | succ n =>
      rw [trace_commit_of_nested hx]
      exact .of_eq_nil rfl
  | zero =>
      obtain ⟨h', he, -⟩ := trace_commit_of_outer (s := s) hx
      have hcalls := s.commitOn_committing c deadline h
      rw [he]
      generalize ((s.commitOn c deadline).trace h).trips = l,
        ((s.commitOn c deadline).trace h).outcome = o at hcalls ⊢
      cases hcalls with
      | unsent => exact .of_eq_nil rfl
      | refused ht => exact .none (by simp [ht, Call.released?])
      | released ht hts hr => exact .ended ⟨.inl ht, hts⟩ hr

theorem clears_rollback (hs : (h.context id).Sound) : (s.rollback id).Clears h := by
  refine .observe ?_
  obtain ⟨deadline, hx | ⟨c, hx⟩ | ⟨c, n, hx⟩⟩ := Host.context_cases hs <;> refine .bind_context hx ?_
  · exact .of_eq_nil rfl
  · exact .of_eq_nil rfl
  refine .bind_budget fun b => .bind_attempt (.inr rfl) (fun a h => ?_) fun f => ?_
  · obtain ⟨r, _, hr, hrelease⟩ := s.server.trace_call (.release c) (h.put (.vacant id deadline))
    refine ⟨r, hr.call_eq, ?_⟩
    simp only [Context.vacant] at hrelease
    cases hre : r.ending <;> simp [Context.opened, hrelease, hre, Ending.outcome]
  · exact .bind (.store _) fun _ => .bind (.log _) fun _ => .bind (.discard (by rfl) _) fun _ => .fail f

theorem clears_conclude (hs : (h.context id).Sound) :
    ∀ ended : Settled Unit, (s.conclude id ended).Clears h
  | .value a => by
      refine .of_trips_eq (clears_commit (s := s) hs) ?_
      rw [trace_conclude_value]
      cases ho : ((s.commit id).trace h).outcome <;> simp [Trace.andThen, ho, Trace.after]
  | .failure f => .of_trips_eq (clears_rollback (s := s) hs) (by rw [trace_conclude_failure]; rfl)
  | .panic p => .of_trips_eq (clears_rollback (s := s) hs) (by rw [trace_conclude_panic]; rfl)

/-! ### Close -/

/-- A close hands back the connection of a context without asking about it. -/
theorem trips_close_of_idle (hx : h.context id = .idle id c deadline) :
    ∃ t, t.call = .release c ∧ (s.close id h).trips = [t] := by
  obtain ⟨t, h', ht, -, e⟩ := trace_close_of_idle (s := s) hx
  exact ⟨t, ht, congrArg Trace.trips e⟩

theorem close_cases (hs : (h.context id).Sound) : (s.close id).Clears h ∨
    ∃ c t, (h.context id).handle = .connection c ∧ t.call = .release c ∧ (s.close id h).trips = [t] := by
  obtain ⟨deadline, hx | ⟨c, hx⟩ | ⟨c, n, hx⟩⟩ := Host.context_cases hs
  · exact .inl (.of_eq_nil (congrArg Trace.trips (trace_close_of_vacant hx)))
  · obtain ⟨t, ht, he⟩ := trips_close_of_idle (s := s) hx
    exact .inr ⟨c, t, by rw [hx]; rfl, ht, he⟩
  · exact .inl (.of_eq_nil (congrArg Trace.trips (trace_close_of_open hx)))

/-! ### Operations without a release -/

theorem replaceContext_makes (x : Context) {P : Call → Prop} : (s.replaceContext x).Makes P := by
  refine .bind (.context x.id) fun old => .bind (.store x) fun _ => ?_
  cases old.handle.conn? with
  | some c => exact .drop s.server c
  | none => exact .pure ()

theorem connection_makes : (s.connection id).Makes fun call => call.isBeginning = true := by
  refine .bind (.observe (.bind ((connectWithin_makes _ _ _).imp fun _ => ?_) fun c => ?_) s _)
    fun c => replaceContext_makes _
  · exact Call.isBeginning_of_isConnecting
  · exact .bind (.log _) fun _ => .pure c

theorem testConnection_makes : (s.testConnection id).Makes fun call => call.isPlain = true := by
  refine .observe (.bind (.context id) fun ctx => .bind (.budget _ _) fun b => ?_) s _
  cases ctx.handle.conn? with
  | some c => exact .bind (.callWithin (by rfl) _ _ _) fun _ => .pure ()
  | none => exact .bind (.callWithin (by rfl) _ _ _) fun _ => .pure ()

theorem perform_makes (e : Errand) : (s.perform id e).Makes fun call => call.isPlain = true := by
  intro h t ht
  rw [trace_perform_at rfl] at ht
  exact (s.runAt_makes _ _ e h t ht).1

end Service

/-! ### A begin that is given up -/

namespace Service

variable {s : Service σ} {id : String} {c : ConnId} {deadline : Option Instant} {h : Host σ}
  {t : RoundTrip}

theorem startTransaction_given_up {d : ConnId} (acquired : Bool)
    (ho : h.context id = .idle id d deadline)
    (ht : t ∈ ((s.startTransaction (.idle id d deadline) acquired).trace h).trips)
    (hcall : t.call = .begin c) (hnever : t.ending = .never) :
    d = c ∧ ∃ f h' l m left, h'.context id = left ∧ Unstarted id d deadline acquired left m ∧
      (s.startTransaction (.idle id d deadline) acquired).trace h = ⟨.failure f, h', l ++ m⟩ := by
  rcases trace_startTransaction acquired ho with
    ⟨u, h', _, hs, _, hst⟩ | ⟨f, h', l, m, hl, ⟨left, hleft, hun⟩, hst⟩ | ⟨p, h', l, _, hp, hst⟩ <;>
    rw [hst] at ht
  · obtain rfl := List.mem_singleton.mp ht
    simp [RoundTrip.succeeded, hnever] at hs
  · rcases List.mem_append.mp ht with ht | ht
    · have hd := hl t ht
      rw [hcall, Call.begin.injEq] at hd
      exact ⟨hd.symm, f, h', l, m, left, hleft, hun, hst⟩
    · cases hun with
      | discarded hu =>
          obtain rfl := List.mem_singleton.mp ht
          rw [hcall] at hu
          cases hu
      | kept => cases ht
  · rw [hp t ht] at hnever
    cases hnever

/-- When a begin is given up, a connection that the context held before stays there, and one that the
begin has acquired is discarded. -/
theorem begin_given_up (hs : (h.context id).Sound) (ht : t ∈ (s.begin id h).trips)
    (hcall : t.call = .begin c) (hnever : t.ending = .never) :
    ((h.context id).handle = .connection c ∧
      ((s.begin id h).host.context id).handle = .connection c) ∨
    ((h.context id).handle = .detached ∧ ((s.begin id h).host.context id).handle = .detached ∧
      ∃ d ∈ (s.begin id h).trips, d.call = .discard c) := by
  have hun : t ∈ ((s.beginUnguarded id).trace h).trips := by
    rcases mem_trips_begin ht with hun | ⟨h', hd⟩
    · exact hun
    · have hdiscard := discardUnknown_makes h' t hd
      rw [hcall] at hdiscard
      cases hdiscard
  suffices hfate : ((h.context id).handle = .connection c ∧
      (((s.begin id).trace h).host.context id).handle = .connection c) ∨
    ((h.context id).handle = .detached ∧ (((s.begin id).trace h).host.context id).handle = .detached ∧
      ∃ d ∈ ((s.begin id).trace h).trips, d.call = .discard c) from hfate
  obtain ⟨deadline, hx | ⟨d, hx⟩ | ⟨d, n, hx⟩⟩ := Host.context_cases hs
  · right
    rcases hacq : (s.acquireVerified deadline).trace h with ⟨o, h', l⟩
    have hl : t ∉ l := by
      intro hmem
      have hconn := connectWithin_makes (s := s) deadline s.settings.attempts 1 h t
        (by rw [← acquireVerified, hacq]; exact hmem)
      rw [hcall] at hconn
      cases hconn
    cases o with
    | value d =>
        rw [trace_beginUnguarded_of_acquired hx hacq, Trace.trips_after, List.mem_append] at hun
        obtain ⟨rfl, f, h'', m, m', left, hleft, hfate, hst⟩ := startTransaction_given_up true
          (Host.context_put rfl) (hun.resolve_left hl) hcall hnever
        have hbegin := trace_begin_of_failure (s := s)
          ((trace_beginUnguarded_of_acquired hx hacq).trans (congrArg (Trace.after · l) hst))
        cases hfate with
        | @discarded u hu =>
            rw [hbegin]
            refine ⟨by rw [hx]; rfl, by rw [hleft]; rfl, u, ?_, hu⟩
            simp
    | _ =>
        refine absurd ?_ hl
        simpa [beginUnguarded, hx, Context.vacant, Handle.isDetached, hacq] using hun
  · left
    rw [trace_beginUnguarded_of_idle hx] at hun
    obtain ⟨rfl, f, h', l, m, left, hleft, hfate, hst⟩ :=
      startTransaction_given_up false hx hun hcall hnever
    rw [trace_begin_of_failure ((trace_beginUnguarded_of_idle hx).trans hst)]
    cases hfate with
    | kept => exact ⟨by rw [hx]; rfl, by rw [hleft]; rfl⟩
  · have hnone : ((s.beginUnguarded id).trace h).trips = [] := by
      simp [beginUnguarded, joinTransaction, hx, Context.opened, Handle.isDetached,
        Handle.inTransaction]
    rw [hnone] at hun
    cases hun

end Service

/-- What an operation releases it has just cleared, unless it is a close. -/
theorem Operation.release_cases {s : Service σ} {h : Host σ} (hs : ∀ id, (h.context id).Sound)
    (o : Operation) : (o.act s).Clears h ∨
      ∃ id c t, o = .close id ∧ (h.context id).handle = .connection c ∧ t.call = .release c ∧
        (o.act s h).trips = [t] := by
  cases o with
  | connection id =>
      exact .inl (.of_makes (Service.connection_makes.imp fun _ => Call.released?_of_isBeginning))
  | testConnection id =>
      exact .inl (.of_makes (Service.testConnection_makes.imp fun _ => Call.released?_of_isPlain))
  | close id =>
      rcases Service.close_cases (s := s) (hs id) with hc | ⟨c, t, hx, ht, he⟩
      · exact .inl hc
      · exact .inr ⟨id, c, t, rfl, hx, ht, he⟩
  | begin id => exact .inl (.of_makes (Service.begin_makes.imp fun _ => Call.released?_of_isBeginning))
  | commit id => exact .inl (Service.clears_commit (hs id))
  | rollback id => exact .inl (Service.clears_rollback (hs id))
  | conclude id ended => exact .inl (Service.clears_conclude (hs id) ended)
  | statement id e =>
      exact .inl (.of_makes ((Service.perform_makes e).imp fun _ => Call.released?_of_isPlain))
  | replace id deadline => exact .inl (.of_makes (Service.replaceContext_makes _))
  | setDeadline id deadline => exact .inl (.of_makes (.bind (.context id) fun ctx => .store _))

/-! ### Sessions -/

theorem RoundTrip.not_ends_of_isBeginning {t : RoundTrip} {c : ConnId}
    (ht : t.call.isBeginning = true) : ¬ t.Ends c := by
  rintro ⟨hc | hc, -⟩ <;> rw [hc] at ht <;> cases ht

/-- The round trips of a journal. -/
def Journal.trips (j : List Entry) : List RoundTrip := j.filterMap Entry.trip?

section
variable {s : Service σ} {state : σ} {now : Instant} {j : List Entry} {h : Host σ}

theorem Session.sound (hs : Session s (fun _ _ => True) (.fresh state now) j h) (id : String) :
    (h.context id).Sound :=
  (hs.kept True (fun _ => trivial) fun _ _ _ _ => trivial).sound id

/-- A connection in doubt that is released is released by a close of the context that held it. -/
theorem Session.close_of_released (hs : Session s (fun _ _ => True) (.fresh state now) j h) :
    ∀ {before after : List RoundTrip} {t : RoundTrip} {c : ConnId},
      Journal.trips j = before ++ t :: after → t.call = .release c → InDoubt c before →
      ∃ id j' h' rest, Session s (fun _ _ => True) (.fresh state now) j' h' ∧
        j = j' ++ (s.close id h').journal ++ rest ∧ Journal.trips j' = before ∧
        (s.close id h').trips = [t] ∧ (h'.context id).handle = .connection c := by
  induction hs with
  | start => exact fun he => by simp [Journal.trips] at he
  | outside _ _ _ ih => exact ih
  | @operation j h hs o _ ih =>
      intro before after t c he ht hd
      -- a release that the operation itself makes, after the calls `a`
      have hown : ∀ a, before = Journal.trips j ++ a → (o.act s h).trips = a ++ t :: after →
          ∃ id j' h' rest, Session s (fun _ _ => True) (.fresh state now) j' h' ∧
            j ++ (o.act s h).journal = j' ++ (s.close id h').journal ++ rest ∧
            Journal.trips j' = before ∧ (s.close id h').trips = [t] ∧
            (h'.context id).handle = .connection c := by
        intro a hbefore htrips
        rcases o.release_cases (s := s) hs.sound with hclear | ⟨id, d, u, rfl, hx, hu, hone⟩
        · rw [Act.Clears, htrips] at hclear
          obtain ⟨u, rfl, hends⟩ := hclear.exists_ends ht
          rw [hbefore] at hd
          exact absurd hd (RoundTrip.not_inDoubt_of_ends hends)
        · rw [htrips, List.append_eq_singleton_iff] at hone
          rcases hone with ⟨rfl, hlast⟩ | ⟨-, hnone⟩
          · obtain ⟨rfl, rfl⟩ := List.cons.inj hlast
            obtain rfl : d = c := by simpa [hu] using ht
            have hj : Journal.trips j = before := by rw [hbefore, List.append_nil]
            exact ⟨id, j, h, [], hs, (List.append_nil _).symm, hj, htrips, hx⟩
          · cases hnone
      rw [Journal.trips, List.filterMap_append] at he
      rcases List.append_eq_append_iff.mp he with ⟨a, hbefore, htrips⟩ | ⟨a, hj, htrips⟩
      · exact hown a hbefore htrips
      · cases a with
        | nil => exact hown [] (by simpa [Journal.trips] using hj.symm) htrips.symm
        | cons u a =>
            obtain ⟨rfl, -⟩ := List.cons.inj htrips
            obtain ⟨id, j', h', rest, hs', hsplit, hclose⟩ := ih hj ht hd
            refine ⟨id, j', h', rest ++ (o.act s h).journal, hs', ?_, hclose⟩
            rw [hsplit, List.append_assoc _ rest]

/-- **Only a close releases a connection in doubt.**  In every session, whatever becomes of its calls,
the release of a connection in doubt is that of a close of the context which held it; and a close of a
context without a transaction releases its connection in any case.  A begin that is given up leaves its
connection in doubt: a connection that the context held before stays there, and one that the begin has
acquired is discarded. -/
theorem released_in_doubt (hs : Session s (fun _ _ => True) (.fresh state now) j h) :
    (∀ before t after c, Journal.trips j = before ++ t :: after → t.call = .release c →
      InDoubt c before → ∃ id j' h' rest, Session s (fun _ _ => True) (.fresh state now) j' h' ∧
        j = j' ++ (s.close id h').journal ++ rest ∧ Journal.trips j' = before ∧
        (s.close id h').trips = [t] ∧ (h'.context id).handle = .connection c) ∧
    (∀ id c, (h.context id).handle = .connection c →
      ∃ t, t.call = .release c ∧ (s.close id h).trips = [t]) ∧
    ∀ id c, ∀ t ∈ (s.begin id h).trips, t.call = .begin c → t.ending = .never →
      InDoubt c (Journal.trips j ++ (s.begin id h).trips) ∧
      (((h.context id).handle = .connection c ∧
          ((s.begin id h).host.context id).handle = .connection c) ∨
        ((h.context id).handle = .detached ∧ ((s.begin id h).host.context id).handle = .detached ∧
          ∃ d ∈ (s.begin id h).trips, d.call = .discard c)) := by
  refine ⟨fun _ _ _ _ he ht hd => hs.close_of_released he ht hd, fun id c hx => ?_,
    fun id c t ht hcall hnever => ⟨?_, Service.begin_given_up (hs.sound id) ht hcall hnever⟩⟩
  · obtain ⟨deadline, he | ⟨d, he⟩ | ⟨d, n, he⟩⟩ := Host.context_cases (hs.sound id) <;> rw [he] at hx
    · cases hx
    · obtain rfl : d = c := by simpa [Context.idle] using hx
      exact Service.trips_close_of_idle he
    · cases hx
  · apply InDoubt.of_mem ht hcall hnever
    intro u hu
    exact RoundTrip.not_ends_of_isBeginning (Service.begin_makes h u hu)

end

/-- A service whose server never answers a begin. -/
def Service.silentBegin : Service Unit := .plain fun
  | .begin _ => .never
  | _ => .reply .done

/-- The doubt that a begin leaves in a context with a connection. -/
theorem released_in_doubt_silentBegin : ∃ j h,
    Session Service.silentBegin (fun _ _ => True) (.fresh () 0) j h ∧
    h.context "a" = .idle "a" 1 none ∧
    (∀ before t after c, Journal.trips j = before ++ t :: after → t.call = .release c →
      InDoubt c before → ∃ id j' h' rest,
        Session Service.silentBegin (fun _ _ => True) (.fresh () 0) j' h' ∧
        j = j' ++ (Service.silentBegin.close id h').journal ++ rest ∧ Journal.trips j' = before ∧
        (Service.silentBegin.close id h').trips = [t] ∧ (h'.context id).handle = .connection c) ∧
    (∀ id c, (h.context id).handle = .connection c →
      ∃ t, t.call = .release c ∧ (Service.silentBegin.close id h).trips = [t]) ∧
    ∀ id c, ∀ t ∈ (Service.silentBegin.begin id h).trips, t.call = .begin c → t.ending = .never →
      InDoubt c (Journal.trips j ++ (Service.silentBegin.begin id h).trips) ∧
      (((h.context id).handle = .connection c ∧
          ((Service.silentBegin.begin id h).host.context id).handle = .connection c) ∨
        ((h.context id).handle = .detached ∧
          ((Service.silentBegin.begin id h).host.context id).handle = .detached ∧
          ∃ d ∈ (Service.silentBegin.begin id h).trips, d.call = .discard c)) := by
  have hstart : Session Service.silentBegin (fun _ _ => True) (.fresh () 0) [] (.fresh () 0) := .start
  have hheld := hstart.operation (.connection "a") trivial
  have hbegun := hheld.operation (.begin "a") trivial
  exact ⟨_, _, hbegun, by decide +kernel, released_in_doubt hbegun⟩

/-- No call panics.  A context with a connection gives a begin up and is closed: the connection is handed
back although nothing has ended its transaction. -/
theorem silentBegin_released_in_doubt : ∃ j h before t after,
    (∀ state call p, (Service.silentBegin.server.react state call).1.ending ≠ .panic p) ∧
    Session Service.silentBegin (fun _ _ => True) (.fresh () 0) j h ∧
    Journal.trips j = before ++ t :: after ∧ t.call = .release 1 ∧ InDoubt 1 before := by
  have hstart : Session Service.silentBegin (fun _ _ => True) (.fresh () 0) [] (.fresh () 0) := .start
  have hheld := hstart.operation (.connection "a") trivial
  have hbegun := hheld.operation (.begin "a") trivial
  have hclosed := hbegun.operation (.close "a") trivial
  have hcalm : ∀ state call p,
      (Service.silentBegin.server.react state call).1.ending ≠ .panic p := by
    intro state call p
    cases call <;> exact nofun
  refine ⟨_, _, [⟨.acquire, 0, 0, .reply .done⟩, ⟨.ping 1, 0, 0, .reply .done⟩,
    ⟨.begin 1, 0, 1000, .never⟩], ⟨.release 1, 1000, 1000, .reply .done⟩, [], hcalm, hclosed, rfl, rfl,
    ?_⟩
  exact ⟨[⟨.acquire, 0, 0, .reply .done⟩, ⟨.ping 1, 0, 0, .reply .done⟩], ⟨.begin 1, 0, 1000, .never⟩,
    [], rfl, rfl, rfl, List.forall_mem_nil _⟩

end SqlSession
