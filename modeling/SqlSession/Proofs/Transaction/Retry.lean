import Mathlib.Data.List.Induction
import SqlSession.Proofs.Transaction.Nested

/-! # Transactions one after the other

A transaction whose commit fails leaves its level and its connection in the context, so that the caller
may commit again.  The next transaction on the context then joins the open one: its end only counts, and
it succeeds without a commit of its own.  `ok_commits_or_joins` says that nothing else can happen. -/

namespace SqlSession

namespace Service

variable {s : Service σ} {id : String} {c : ConnId} {deadline : Option Instant} {h : Host σ}

/-! ### One transaction -/

/-- A transaction on a context that holds nothing fails with its begin, or makes the calls of a flat
one. -/
theorem withTransaction_of_vacant (hs : s.server.CalmRollback) (ho : h.context id = .vacant id deadline)
    (b : Body) :
    let whole := (s.withTransaction id (b.act s id)).trace h
    (whole.outcome ≠ .value () ∧ whole.host.context id = .vacant id deadline) ∨
    ∃ (c : ConnId) (ran : List RoundTrip) (ended : Settled Unit) (tail : Trace σ Unit),
      whole.trips = ((s.begin id).trace h).trips ++ ran ++ tail.trips ∧
      whole.outcome = tail.outcome ∧
      Reached s c deadline ((s.begin id).trace h).host.now b.errands ran ended.outcome ∧
      Concluded s c deadline (RoundTrip.lastLeft ((s.begin id).trace h).host.now ran) ended tail.trips
        tail.outcome ∧
      Closing id c deadline tail whole.host := by
  intro whole
  rcases begin_of_vacant (s := s) ho with ⟨c, l, t, h', _, _, hopen, hbegin⟩ | ⟨hne, hleft⟩
  · obtain ⟨ran, ended, h'', m, hwhole, htrips, hout, hreach, hover, hclose⟩ :=
      withTransaction_of_begun (b := b) hs hbegin hopen
    have hcon := s.concludeOn_concluded c deadline hs m ended
    have hbhost : ((s.begin id).trace h).host = h' := by rw [hbegin]
    rw [hover] at hcon
    rw [hbhost]
    refine .inr ⟨c, ran, ended, (s.concludeOn c deadline ended).trace m, ?_, ?_, hreach, hcon, ?_⟩
    · simp only [whole, hwhole, hbegin, htrips, List.append_assoc]
    · simp only [whole, hwhole, hout]
    · simp only [whole, hwhole, hclose]
  · left
    have hstop : whole.outcome ≠ .value () ∧ whole.host = ((s.begin id).trace h).host := by
      simp only [whole, trace_withTransaction]
      rcases hbegin : (s.begin id).trace h with ⟨o, h', l⟩
      rw [hbegin] at hne
      cases o with
      | value a => exact absurd rfl hne
      | _ => exact ⟨nofun, rfl⟩
    exact ⟨hstop.1, by rw [hstop.2]; exact hleft⟩

theorem withTransaction_of_open {n : Nat} (hs : s.server.CalmRollback)
    (ho : h.context id = .opened id c (n + 1) deadline) (b : Body) :
    let whole := (s.withTransaction id (b.act s id)).trace h
    (Reached s c deadline h.now b.errands whole.trips whole.outcome ∧
      whole.host.context id = h.context id) ∨
    (whole.outcome ≠ .value () ∧ (whole.host.context id = .vacant id deadline ∨
      ∃ n, whole.host.context id = .opened id c (n + 1) deadline)) := by
  intro whole
  rcases withTransaction_keepsStep hs ho (body_keepsStep hs b (Host.context_put rfl)) with
    hsame | ⟨ended, hcol⟩
  · left
    simp only [whole, hsame]
    exact ⟨(s.runAllOn_reached c deadline b.errands h).1,
      (s.aloof_runAllOn c deadline b.errands).context_eq h id⟩
  · right
    refine ⟨?_, hcol.closing.imp_right fun hleft => hleft.1⟩
    rw [hcol.outcome_eq]
    exact concludeOn_ne_value hcol.isFault

/-! ### Many transactions -/

/-- The host after transactions on one context, one after the other and whatever became of each. -/
def afterAll (s : Service σ) (id : String) (earlier : List Body) (h : Host σ) : Host σ :=
  earlier.foldl (fun h b => ((s.withTransaction id (b.act s id)).trace h).host) h

theorem afterAll_concat (earlier : List Body) (b : Body) : s.afterAll id (earlier ++ [b]) h =
    ((s.withTransaction id (b.act s id)).trace (s.afterAll id earlier h)).host := by
  simp only [afterAll, List.foldl_append, List.foldl_cons, List.foldl_nil]

/-- A transaction that began one on `c`, did not succeed, and has left it open: no call of its end was
answered. -/
structure LeavesOpen (s : Service σ) (id : String) (c : ConnId) (deadline : Option Instant)
    (b : Body) (h : Host σ) : Prop where
  vacant : h.context id = .vacant id deadline
  failed : ((s.withTransaction id (b.act s id)).trace h).outcome ≠ .value ()
  opened : ∃ n, ((s.withTransaction id (b.act s id)).trace h).host.context id =
    .opened id c (n + 1) deadline
  unended : ∃ ran ended tail, ((s.withTransaction id (b.act s id)).trace h).trips =
      ((s.begin id).trace h).trips ++ ran ++ tail ∧
    Reached s c deadline ((s.begin id).trace h).host.now b.errands ran ended.outcome ∧
    Concluded s c deadline (RoundTrip.lastLeft ((s.begin id).trace h).host.now ran) ended tail
      ((s.withTransaction id (b.act s id)).trace h).outcome ∧
    ∀ t ∈ tail, t.succeeded = false

/-- What a context is between transactions: it holds nothing, or what one of them has left open. -/
def Standing (s : Service σ) (id : String) (deadline : Option Instant) (earlier : List Body)
    (h : Host σ) : Prop :=
  (s.afterAll id earlier h).context id = .vacant id deadline ∨
  ∃ c, (∃ n, (s.afterAll id earlier h).context id = .opened id c (n + 1) deadline) ∧
    ∃ first b later, earlier = first ++ b :: later ∧ LeavesOpen s id c deadline b (s.afterAll id first h)

theorem Standing.concat (hs : s.server.CalmRollback) {earlier : List Body}
    (hst : Standing s id deadline earlier h) (b : Body) :
    Standing s id deadline (earlier ++ [b]) h := by
  unfold Standing
  rw [afterAll_concat]
  rcases hst with hvacant | ⟨c, ⟨n, hopen⟩, first, x, later, he, hleft⟩
  · rcases withTransaction_of_vacant hs hvacant b with
      ⟨_, hleft⟩ | ⟨c, ran, ended, tail, htrips, hout, hreach, hcon, hclose⟩
    · exact .inl hleft
    · rcases hclose with hnone | ⟨hopen, hne, hfail⟩
      · exact .inl hnone
      · exact .inr ⟨c, hopen, earlier, b, [], rfl, hvacant, by rw [hout]; exact hne, hopen,
          ran, ended, tail.trips, htrips, hreach, by rw [hout]; exact hcon, hfail⟩
  · have hlater : earlier ++ [b] = first ++ x :: (later ++ [b]) := by rw [he]; simp
    rcases withTransaction_of_open hs hopen b with ⟨_, hsame⟩ | ⟨_, hnone | hopen'⟩
    · exact .inr ⟨c, ⟨n, hsame.trans hopen⟩, first, x, later ++ [b], hlater, hleft⟩
    · exact .inl hnone
    · exact .inr ⟨c, hopen', first, x, later ++ [b], hlater, hleft⟩

theorem standing (hs : s.server.CalmRollback) (ho : h.context id = .vacant id deadline)
    (earlier : List Body) : Standing s id deadline earlier h := by
  induction earlier using List.reverseRecOn with
  | nil => exact .inl ho
  | append_singleton earlier b ih => exact ih.concat hs b

/-- **A transaction that succeeds has committed, or has joined one that was left open.**  A call that
finds the context empty commits on the connection of its statements, after the last of them.  A call that
finds a transaction there makes the calls of its statements only, on the connection of that transaction
and leaving it open; and an earlier call, which did not succeed, has begun it and left it open. -/
theorem ok_commits_or_joins (hs : s.server.CalmRollback) (ho : h.context id = .vacant id deadline)
    (earlier : List Body) (b : Body)
    (hok : ((s.withTransaction id (b.act s id)).trace (s.afterAll id earlier h)).outcome = .value ()) :
    let before := s.afterAll id earlier h
    let whole := (s.withTransaction id (b.act s id)).trace before
    (before.context id = .vacant id deadline ∧ ∃ c ran t r,
      whole.trips = ((s.begin id).trace before).trips ++ ran ++ [t, r] ∧
      Reached s c deadline ((s.begin id).trace before).host.now b.errands ran (.value ()) ∧
      t.call = .commit c ∧ t.succeeded = true ∧ r.call = .release c ∧ whole.host.context id = .vacant id deadline) ∨
    ∃ c n, before.context id = .opened id c (n + 1) deadline ∧
      Reached s c deadline before.now b.errands whole.trips (.value ()) ∧
      whole.host.context id = before.context id ∧
      ∃ first x later, earlier = first ++ x :: later ∧
        LeavesOpen s id c deadline x (s.afterAll id first h) := by
  intro before whole
  rcases standing hs ho earlier with hvacant | ⟨c, ⟨n, hopen⟩, hfirst⟩
  · left
    refine ⟨hvacant, ?_⟩
    rcases withTransaction_of_vacant hs hvacant b with
      ⟨hne, _⟩ | ⟨c, ran, ended, tail, htrips, hout, hreach, hcon, hclose⟩
    · exact absurd hok hne
    · have htail : tail.outcome = .value () := hout.symm.trans hok
      rw [htail] at hcon
      obtain ⟨rfl, t, r, htr, ht, hts, hr⟩ := hcon.of_value
      rw [htr] at htrips
      refine ⟨c, ran, t, r, htrips, hreach, ht, hts, hr, ?_⟩
      rcases hclose with hnone | ⟨_, hne, _⟩
      · exact hnone
      · exact absurd htail hne
  · right
    rcases withTransaction_of_open hs hopen b with ⟨hreach, hsame⟩ | ⟨hne, _⟩
    · rw [hok] at hreach
      exact ⟨c, n, hopen, hreach, hsame, hfirst⟩
    · exact absurd hok hne

/-- A service whose server refuses every commit. -/
def uncommitting : Service Unit := .plain fun
  | .commit _ => .failure (.database "could not serialize access" (some "40001") "")
  | _ => .reply .done

/-- A transaction of one write. -/
def Body.write : Body := .statement ⟨.execute, .text "w" false []⟩ .done

/-- A transaction that is tried again after its commit was refused succeeds, with the one call of its
statement and no commit. -/
theorem retry_succeeds_uncommitted :
    let before := uncommitting.afterAll "a" [Body.write] (Host.fresh () 0)
    let whole := (uncommitting.withTransaction "a" (Body.write.act uncommitting "a")).trace before
    uncommitting.server.CalmRollback ∧ (Host.fresh () 0).context "a" = .vacant "a" none ∧
    whole.outcome = .value () ∧ whole.trips.length = 1 ∧
    ∀ t ∈ whole.trips, ∀ c, t.call ≠ .commit c := by
  refine ⟨fun _ _ _ => nofun, rfl, by decide +kernel, by decide +kernel, ?_⟩
  have hnone : (((uncommitting.withTransaction "a" (Body.write.act uncommitting "a")).trace
      (uncommitting.afterAll "a" [Body.write] (Host.fresh () 0))).trips.all fun t =>
        match t.call with
        | .commit _ => false
        | _ => true) = true := by decide +kernel
  intro t ht c hc
  simpa [hc] using List.all_eq_true.mp hnone t ht

/-- The second try joins the transaction that the first has left open. -/
theorem ok_commits_or_joins_retry :
    let h := Host.fresh () 0
    let before := uncommitting.afterAll "a" [Body.write] h
    let whole := (uncommitting.withTransaction "a" (Body.write.act uncommitting "a")).trace before
    uncommitting.server.CalmRollback ∧ h.context "a" = .vacant "a" none ∧
    whole.outcome = .value () ∧
    ((before.context "a" = .vacant "a" none ∧ ∃ c ran t r,
      whole.trips = ((uncommitting.begin "a").trace before).trips ++ ran ++ [t, r] ∧
      Reached uncommitting c none ((uncommitting.begin "a").trace before).host.now Body.write.errands ran
        (.value ()) ∧ t.call = .commit c ∧ t.succeeded = true ∧
      r.call = .release c ∧ whole.host.context "a" = .vacant "a" none) ∨
    ∃ c n, before.context "a" = .opened "a" c (n + 1) none ∧
      Reached uncommitting c none before.now Body.write.errands whole.trips (.value ()) ∧
      whole.host.context "a" = before.context "a" ∧
      ∃ first x later, [Body.write] = first ++ x :: later ∧
        LeavesOpen uncommitting "a" c none x (uncommitting.afterAll "a" first h)) := by
  have hcalm : uncommitting.server.CalmRollback := fun _ _ _ => nofun
  have hok : ((uncommitting.withTransaction "a" (Body.write.act uncommitting "a")).trace
      (uncommitting.afterAll "a" [Body.write] (Host.fresh () 0))).outcome = .value () := by decide +kernel
  exact ⟨hcalm, rfl, hok, ok_commits_or_joins hcalm rfl [Body.write] Body.write hok⟩

end Service

end SqlSession
