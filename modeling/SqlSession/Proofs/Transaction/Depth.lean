import Mathlib.Data.List.Induction
import Mathlib.Data.List.Infix
import SqlSession.Proofs.Transaction.Turn

/-! # Nesting depth

The depth of a context goes up with every begin, down with every commit, and back to zero with every
rollback; a commit at depth zero does not count, and neither does a turn that the clock stops.  As long as all
calls are answered in time, the context counts the depth (`Service.nested`), and the depth and the handle say
which calls a turn makes (`turns_follow_depth`). -/

namespace SqlSession

namespace Service

variable (s : Service σ) (id : String)

/-- The host after turns, whatever became of each. -/
def afterTurns (w : List Turn) (h : Host σ) : Host σ :=
  w.foldl (fun h x => ((x.act s id).trace h).host) h

theorem afterTurns_concat (w : List Turn) (x : Turn) (h : Host σ) :
    s.afterTurns id (w ++ [x]) h = ((x.act s id).trace (s.afterTurns id w h)).host := by
  simp only [afterTurns, List.foldl_append, List.foldl_cons, List.foldl_nil]

/-- Whether the calls of all turns are answered in time, one turn after the other. -/
def Punctual : List Turn → Host σ → Prop
  | [], _ => True
  | x :: later, h => ((x.act s id).trace h).Timely s ∧ Punctual later ((x.act s id).trace h).host

instance decidablePunctual {s : Service σ} {id : String} :
    ∀ (w : List Turn) (h : Host σ), Decidable (s.Punctual id w h)
  | [], _ => .isTrue trivial
  | x :: later, h =>
    have : Decidable (s.Punctual id later ((x.act s id).trace h).host) := decidablePunctual later _
    inferInstanceAs (Decidable (((x.act s id).trace h).Timely s ∧ s.Punctual id later _))

theorem punctual_concat (x : Turn) : ∀ (w : List Turn) (h : Host σ),
    s.Punctual id (w ++ [x]) h ↔
      s.Punctual id w h ∧ ((x.act s id).trace (s.afterTurns id w h)).Timely s
  | [], h => by simp [Punctual, afterTurns]
  | y :: w, h => by
      have hrest := punctual_concat x w ((y.act s id).trace h).host
      have hafter : s.afterTurns id (y :: w) h = s.afterTurns id w ((y.act s id).trace h).host := rfl
      rw [List.cons_append, Punctual, Punctual, hrest, hafter, and_assoc]

/-- Those of the turns that count. -/
def counted : List Turn → Host σ → List Turn
  | [], _ => []
  | x :: later, h =>
    (if x.Counts s id h then [x] else []) ++ counted later ((x.act s id).trace h).host

theorem counted_concat (x : Turn) : ∀ (w : List Turn) (h : Host σ), s.counted id (w ++ [x]) h =
    s.counted id w h ++ if x.Counts s id (s.afterTurns id w h) then [x] else []
  | [], h => List.append_nil _
  | y :: w, h => by
      have hrest := counted_concat x w ((y.act s id).trace h).host
      have hafter : s.afterTurns id (y :: w) h = s.afterTurns id w ((y.act s id).trace h).host := rfl
      rw [List.cons_append, counted, counted, hrest, hafter, List.append_assoc]

/-- The depth after turns: that of those that count. -/
def depth (w : List Turn) (h : Host σ) : Nat := Turn.depth (s.counted id w h)

/-- The begin between `before` and `since` encloses what follows: it comes at depth zero, and the depth
has not been back there since. -/
structure Encloses (before since : List Turn) (h : Host σ) : Prop where
  outermost : s.depth id before h = 0
  kept : ∀ m, m <+: since → 0 < s.depth id (before ++ .begin :: m) h

/-- Whether the begin that encloses the end of `w` was made on `c`. -/
def BegunOn (c : ConnId) (w : List Turn) (h : Host σ) : Prop :=
  ∃ before since, w = before ++ .begin :: since ∧ s.Encloses id before since h ∧
    (((s.begin id).trace (s.afterTurns id before h)).trips.map RoundTrip.call).getLast? =
      some (.begin c)

/-- What turns leave behind whose calls are answered in time: the context counts the depth; it holds the
transaction of the enclosing begin, or nothing once the depth has come back to zero. -/
structure Nested (h : Host σ) (w : List Turn) : Prop where
  sound : ((s.afterTurns id w h).context id).Sound
  deadline : ((s.afterTurns id w h).context id).deadline = none
  level : ((s.afterTurns id w h).context id).level = s.depth id w h
  opened : 0 < s.depth id w h →
    ∃ c, s.BegunOn id c w h ∧ ((s.afterTurns id w h).context id).handle = .transaction c
  closed : s.depth id w h = 0 → (∀ m, m <+: w → s.depth id m h = 0) ∨
    (s.afterTurns id w h).context id = .vacant id none

section
variable {s id} {h : Host σ} {w : List Turn} {x : Turn}

theorem depth_of_counts (hx : x.Counts s id (s.afterTurns id w h)) :
    s.depth id (w ++ [x]) h = x.next (s.depth id w h) := by
  rw [depth, counted_concat, if_pos hx, Turn.depth_concat, depth]

theorem depth_of_not_counts (hx : ¬ x.Counts s id (s.afterTurns id w h)) :
    s.depth id (w ++ [x]) h = s.depth id w h := by
  rw [depth, counted_concat, if_neg hx, List.append_nil, depth]

/-- As long as the depth does not come back to zero the begin that encloses is the same. -/
theorem BegunOn.concat {c : ConnId} (hb : s.BegunOn id c w h) (hpos : 0 < s.depth id (w ++ [x]) h) :
    s.BegunOn id c (w ++ [x]) h := by
  obtain ⟨before, since, rfl, henc, hcall⟩ := hb
  refine ⟨before, since ++ [x], by simp, ⟨henc.outermost, fun m hm => ?_⟩, hcall⟩
  rcases List.prefix_concat_iff.mp hm with rfl | hm
  · rw [← List.cons_append, ← List.append_assoc]
    exact hpos
  · exact henc.kept m hm

theorem depth_eq_zero_concat (hall : ∀ m, m <+: w → s.depth id m h = 0)
    (hzero : s.depth id (w ++ [x]) h = 0) : ∀ m, m <+: w ++ [x] → s.depth id m h = 0 := by
  intro m hm
  rcases List.prefix_concat_iff.mp hm with rfl | hm
  · exact hzero
  · exact hall m hm

end

namespace Nested

variable {s id} {h : Host σ} {w : List Turn} {x : Turn}

theorem start (hstart : h.context id = .vacant id none ∨ ∃ c, h.context id = .idle id c none) :
    s.Nested id h [] where
  sound := by
    change (h.context id).Sound
    rcases hstart with hx | ⟨c, hx⟩ <;> rw [hx]
    · exact Context.sound_vacant id none
    · exact Context.sound_idle id c none
  deadline := by
    change (h.context id).deadline = none
    rcases hstart with hx | ⟨c, hx⟩ <;> rw [hx] <;> rfl
  level := by
    change (h.context id).level = 0
    rcases hstart with hx | ⟨c, hx⟩ <;> rw [hx] <;> rfl
  opened := nofun
  closed _ := .inl fun m hm => by rw [List.prefix_nil.mp hm]; rfl

theorem context_eq (hn : s.Nested id h w) (hpos : 0 < s.depth id w h) :
    ∃ c k, s.BegunOn id c w h ∧ s.depth id w h = k + 1 ∧
      (s.afterTurns id w h).context id = .opened id c (k + 1) none := by
  obtain ⟨c, hbegun, hhandle⟩ := hn.opened hpos
  have hlevel := hn.level
  rcases Host.context_cases_of_none hn.sound hn.deadline with hx | ⟨d, hx⟩ | ⟨d, k, hx⟩ <;>
    rw [hx] at hhandle hlevel
  · cases hhandle
  · cases hhandle
  · obtain rfl : d = c := by simpa [Context.opened] using hhandle
    exact ⟨d, k, hbegun, hlevel.symm, hx⟩

theorem begunOn_concat (hzero : s.depth id w h = 0)
    (hcount : Turn.begin.Counts s id (s.afterTurns id w h))
    (hserved : Turn.Served id .begin (s.afterTurns id w h)
      ((s.begin id).trace (s.afterTurns id w h)))
    (hlevel : ((s.afterTurns id w h).context id).level = 0) :
    s.BegunOn id (((s.afterTurns id w h).context id).handle.conn?.getD
      ((s.afterTurns id w h).handedOut + 1)) (w ++ [.begin]) h := by
  refine ⟨w, [], rfl, ⟨hzero, fun m hm => ?_⟩, ?_⟩
  · rw [List.prefix_nil.mp hm, depth_of_counts hcount]
    exact Nat.succ_pos _
  · rw [hserved.calls_eq, hlevel]
    cases hconn : ((s.afterTurns id w h).context id).handle.conn? <;> simp [Turn.calls, hconn]

/-- **Step.**  One more turn that counts keeps what turns leave behind. -/
theorem concat_of_counts (hn : s.Nested id h w) (hcount : x.Counts s id (s.afterTurns id w h))
    (hserved : x.Served id (s.afterTurns id w h) ((x.act s id).trace (s.afterTurns id w h))) :
    s.Nested id h (w ++ [x]) where
  sound := by
    rw [afterTurns_concat, hserved.context_eq]
    exact Turn.sound_leaves hn.sound
  deadline := by
    rw [afterTurns_concat, hserved.context_eq, Turn.deadline_leaves]
    exact hn.deadline
  level := by
    rw [afterTurns_concat, hserved.context_eq, Turn.level_leaves, hn.level, depth_of_counts hcount]
  opened hpos := by
    rcases Nat.eq_zero_or_pos (s.depth id w h) with hzero | hopen
    · rw [depth_of_counts hcount, hzero] at hpos
      obtain rfl := Turn.eq_begin hpos
      rw [afterTurns_concat, hserved.context_eq]
      exact ⟨_, begunOn_concat hzero hcount hserved (hn.level.trans hzero), rfl⟩
    · obtain ⟨c, k, hbegun, hdepth, hx⟩ := hn.context_eq hopen
      refine ⟨c, hbegun.concat hpos, ?_⟩
      rw [depth_of_counts hcount, hdepth] at hpos
      rw [afterTurns_concat, hserved.context_eq, hx, Turn.leaves_of_open hpos]
      rfl
  closed hzero := by
    have hnext := hzero
    rw [depth_of_counts hcount, ← hn.level] at hnext
    rw [afterTurns_concat, hserved.context_eq]
    rcases Nat.eq_zero_or_pos (s.depth id w h) with hbefore | hopen
    · have hl := hn.level.trans hbefore
      rw [hl] at hnext
      rw [Turn.leaves_of_closed hl hnext]
      exact (hn.closed hbefore).imp_left fun hall => depth_eq_zero_concat hall hzero
    · rw [← hn.level] at hopen
      rw [Turn.leaves_of_ended hopen hnext, Host.id_context, hn.deadline]
      exact .inr rfl

/-- **Step.**  So does one more turn that does not count. -/
theorem concat_of_not_counts (hn : s.Nested id h w)
    (hcount : ¬ x.Counts s id (s.afterTurns id w h))
    (hstop : x.Stopped s id (s.afterTurns id w h) ((x.act s id).trace (s.afterTurns id w h))) :
    s.Nested id h (w ++ [x]) := by
  have hdepth := depth_of_not_counts hcount
  have hleft := hstop.context_eq hcount
  rw [← afterTurns_concat] at hleft
  rcases hleft with hsame | ⟨hl, hvacant⟩
  · refine ⟨by rw [hsame]; exact hn.sound, by rw [hsame]; exact hn.deadline,
      by rw [hsame, hdepth]; exact hn.level, fun hpos => ?_, fun hzero => ?_⟩
    · obtain ⟨c, hbegun, hhandle⟩ := hn.opened (by rwa [hdepth] at hpos)
      exact ⟨c, hbegun.concat hpos, by rw [hsame]; exact hhandle⟩
    · rw [hsame]
      exact (hn.closed (hdepth ▸ hzero)).imp_left fun hall => depth_eq_zero_concat hall hzero
  · have hzero : s.depth id (w ++ [x]) h = 0 := by rw [hdepth, ← hn.level, hl]
    refine ⟨by rw [hvacant]; exact Context.sound_vacant id none, by rw [hvacant]; rfl,
      by rw [hvacant, hzero]; rfl, fun hpos => ?_, fun _ => .inr hvacant⟩
    rw [hzero] at hpos
    cases hpos

end Nested

/-- **Run.**  Turns whose calls are answered in time, one after the other. -/
theorem nested {s : Service σ} {id : String} {h : Host σ} (hset : s.settings.Positive)
    (hstart : h.context id = .vacant id none ∨ ∃ c, h.context id = .idle id c none) (w : List Turn)
    (hp : s.Punctual id w h) : s.Nested id h w := by
  induction w using List.reverseRecOn with
  | nil => exact .start hstart
  | append_singleton w x ih =>
      obtain ⟨hbefore, hnow⟩ := (s.punctual_concat id x w h).mp hp
      have hw := ih hbefore
      by_cases hcount : x.Counts s id (s.afterTurns id w h)
      · exact hw.concat_of_counts hcount (Turn.served hset hw.sound hw.deadline hcount hnow)
      · exact hw.concat_of_not_counts hcount (Turn.stopped hset hw.sound hw.deadline hcount hnow)

/-- **Turns follow the depth.**  On a context that starts detached or with a connection and has no
deadline, as long as all calls are answered in time: the context counts the depth; a turn that counts makes
the calls that the depth and the handle ask for, and ends as the depth says; a commit at depth zero changes
nothing; a turn that does not count is stopped by the clock, before any call but those with which a begin
comes by its connection and is rid of it; at a positive depth the context has the transaction of the
enclosing begin; and when the depth has come back to zero the context is detached. -/
theorem turns_follow_depth {s : Service σ} {id : String} {h : Host σ} (hset : s.settings.Positive)
    (hstart : h.context id = .vacant id none ∨ ∃ c, h.context id = .idle id c none) (w : List Turn)
    (x : Turn) (hp : s.Punctual id (w ++ [x]) h) :
    let before := s.afterTurns id w h
    let run := (x.act s id).trace before
    let depth := s.depth id w h
    (before.context id).level = depth ∧
    (x.Counts s id before →
      run.trips.map RoundTrip.call = x.calls depth (before.context id).handle before.handedOut ∧
      x.Ends id depth run.outcome) ∧
    (x = .commit → depth = 0 → run.host = before) ∧
    (¬ x.Counts s id before → x.Stopped s id before run) ∧
    (0 < depth → ∃ c, s.BegunOn id c w h ∧ (before.context id).handle = .transaction c ∧
      ∀ t ∈ run.trips, t.call.conn? = some c) ∧
    (depth = 0 → (∃ m, m <+: w ∧ 0 < s.depth id m h) → before.context id = .vacant id none) := by
  intro before run depth
  obtain ⟨hbefore, hnow⟩ := (s.punctual_concat id x w h).mp hp
  have hn := nested hset hstart w hbefore
  have hlevel : (before.context id).level = depth := hn.level
  have hserved (hcount : x.Counts s id before) : x.Served id before run :=
    Turn.served hset hn.sound hn.deadline hcount hnow
  have hstop (hcount : ¬ x.Counts s id before) : x.Stopped s id before run :=
    Turn.stopped hset hn.sound hn.deadline hcount hnow
  have hcalls (hcount : x.Counts s id before) :
      run.trips.map RoundTrip.call = x.calls depth (before.context id).handle before.handedOut := by
    rw [← hlevel]
    exact (hserved hcount).calls_eq
  refine ⟨hlevel, fun hcount => ⟨hcalls hcount, ?_⟩, fun hx hzero => ?_, hstop, fun hpos => ?_,
    fun hzero hever => ?_⟩
  · rw [← hlevel]
    exact (hserved hcount).ends
  · -- a commit at depth zero needs no timeout
    have hcount : x.Counts s id before := by
      subst hx
      intro hone
      rw [hlevel, hzero] at hone
      cases hone
    exact (hserved hcount).unchanged hx (hlevel.trans hzero)
  · obtain ⟨c, hbegun, hhandle⟩ := hn.opened hpos
    refine ⟨c, hbegun, hhandle, fun t ht => ?_⟩
    by_cases hcount : x.Counts s id before
    · have hmem : t.call ∈ run.trips.map RoundTrip.call := List.mem_map_of_mem ht
      rw [hcalls hcount, hhandle] at hmem
      exact Turn.conn?_of_open hpos hmem
    · rw [Turn.Stopped.trips_eq_nil (hlevel ▸ hpos) (hstop hcount) hcount] at ht
      cases ht
  · obtain ⟨m, hm, hpos⟩ := hever
    rcases hn.closed hzero with hall | hvacant
    · exact absurd (hall m hm) (Nat.pos_iff_ne_zero.mp hpos)
    · exact hvacant

/-- A commit too early, a rollback of two levels, and then two levels again, of which one is left. -/
def Turn.afresh : List Turn := [.commit, .begin, .begin, .rollback, .begin, .begin, .commit]

theorem turns_follow_depth_afresh :
    let h := Host.fresh () 0
    let before := obliging.afterTurns "a" Turn.afresh h
    let run := (Turn.commit.act obliging "a").trace before
    obliging.settings.Positive ∧ h.context "a" = .vacant "a" none ∧
    obliging.Punctual "a" (Turn.afresh ++ [.commit]) h ∧
    obliging.depth "a" Turn.afresh h = 1 ∧ Turn.commit.Counts obliging "a" before ∧
    (before.context "a").level = 1 ∧ run.outcome = .value () ∧
    ∃ c, obliging.BegunOn "a" c Turn.afresh h ∧ (before.context "a").handle = .transaction c ∧
      run.trips.map RoundTrip.call = [.commit c, .release c] ∧
      ∀ t ∈ run.trips, t.call.conn? = some c := by
  have hset : obliging.settings.Positive := ⟨by decide, by decide, by decide, by decide⟩
  have hp : obliging.Punctual "a" (Turn.afresh ++ [.commit]) (Host.fresh () 0) := by decide +kernel
  have hdepth : obliging.depth "a" Turn.afresh (Host.fresh () 0) = 1 := by decide +kernel
  have hcount : Turn.commit.Counts obliging "a"
      (obliging.afterTurns "a" Turn.afresh (Host.fresh () 0)) := by decide +kernel
  obtain ⟨hlevel, hserved, -, -, hopen, -⟩ :=
    turns_follow_depth hset (.inl rfl) Turn.afresh .commit hp
  obtain ⟨hcalls, hends⟩ := hserved hcount
  obtain ⟨c, hbegun, hhandle, hconn⟩ := hopen (by rw [hdepth]; exact Nat.one_pos)
  rw [hdepth] at hlevel hcalls hends
  rw [hhandle] at hcalls
  exact ⟨hset, rfl, hp, hdepth, hcount, hlevel, hends, c, hbegun, hhandle, hcalls, hconn⟩

/-- With a timeout that the clock cannot hold, a begin does not count although every call is answered in
time: the context is at level zero after it, and no begin has been made. -/
theorem unholdable_begin_uncounted :
    let h := ((unholdable.connection "a").trace (Host.fresh () 0)).host
    let run := (Turn.begin.act unholdable "a").trace h
    unholdable.settings.Positive ∧ h.context "a" = .idle "a" 1 none ∧
    unholdable.Punctual "a" [.begin] h ∧ Turn.depth [.begin] = 1 ∧
    ((unholdable.afterTurns "a" [.begin] h).context "a").level = 0 ∧
    run.trips.map RoundTrip.call = [.discard 1] ∧ run.outcome ≠ .value () :=
  ⟨⟨by decide, by decide, by decide, by decide⟩, by decide +kernel, by decide +kernel, rfl,
    by decide +kernel, rfl, nofun⟩

end Service

end SqlSession
