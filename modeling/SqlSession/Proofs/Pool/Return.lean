import SqlSession.Pool.Slot
import SqlSession.Proofs.Act.Calls
import SqlSession.Proofs.Sqlite.Transactions

/-! # What the pool gets back

While a connection is out, its account says whether a begin has succeeded on it since the last commit or
rollback that did (`Accounts.useAll`, by induction on its uses).  Whichever way its use ends, one call is made
for it (`Checkout.parts`), and the account decides which: the connection is back in the pool, closed or
discarded (`pooled_iff_not_begun`).  If the server opens and ends transactions by control statements only
(`Tracks`), then no open one goes back to the pool. -/

namespace SqlSession

/-- Whether an act has run to its end. -/
def Outcome.completed {α : Type} : Outcome α → Bool
  | .value _ | .failure _ => true
  | .panic _ | .hang => false

namespace Pool

/-- A use of a connection after which it is still out. -/
inductive Use where
  | control (c : Control)
  | ping
  | fetch (sql : String) (params : List Param)
  | execute (sql : String) (params : List Param)

/-- The call of a use. -/
def Use.call : Use → ConnId → Call
  | control c => Slot.controlCall c
  | ping => .ping
  | fetch sql params => fun n => .fetch (.conn n) sql params
  | execute sql params => fun n => .execute (.conn n) sql params

/-! ### One call -/

/-- The call that ends the use of a connection, by what its account says. -/
def Parting.call (n : ConnId) : Parting → Bool → Call
  | release, inTransaction => if inTransaction then .close n else .release n
  | discard, _ => .discard n
  | drop, inTransaction => if inTransaction then .discard n else .release n

theorem Parting.call_iffs (n : ConnId) (p : Parting) (inTransaction : Bool) :
    (p.call n inTransaction = .release n ↔ p ≠ .discard ∧ ¬ inTransaction = true) ∧
    (p.call n inTransaction = .close n ↔ p = .release ∧ inTransaction = true) ∧
    (p.call n inTransaction = .discard n ↔ p = .discard ∨ p = .drop ∧ inTransaction = true) := by
  cases p <;> cases inTransaction <;> simp [call]

/-- A run that ends the use of a connection `n` by one call, which reaches the server.  Only closing can
fail. -/
structure Parts (server : Server σ) (n : ConnId) (h : Host σ) (t : RoundTrip) (r : Run σ Unit) : Prop where
  trips_eq : r.trips = [t]
  server_eq : r.host.server = (server.react h.server t.call).2
  outcome_of_close : t.call = .close n → r.outcome = (server.react h.server (.close n)).1.ending.done
  outcome_of_other : t.call ≠ .close n → r.outcome = .value ()

namespace Checkout

variable (server : Server σ) (n : ConnId) (lender : Backend) (h : Host σ)

theorem trace_release_of_open : ∃ t, t.call = .close n ∧
    (release server n ⟨some lender, true⟩).trace h =
      ⟨(server.react h.server (.close n)).1.ending.done,
        h.afterTrip (server.react h.server (.close n)).2 t, [t]⟩ := by
  let t : RoundTrip := ⟨.close n, h.now, h.now + (server.react h.server (.close n)).1.delay,
    (server.react h.server (.close n)).1.ending⟩
  have hcall : (server.call (.close n)).trace h =
    ⟨t.ending.outcome, h.afterTrip (server.react h.server (.close n)).2 t, [t]⟩ := rfl
  refine ⟨t, rfl, ?_⟩
  change _ = (⟨t.ending.done, _, _⟩ : Trace σ Unit)
  -- the account that is let go afterwards has nothing left, however closing has ended
  cases he : t.ending <;>
    simp [release, take, drop, leftOver, hcall, he, Ending.outcome, Ending.done, Outcome.attempted]

variable {server n lender h}

theorem parts_of_pooled {x : Act σ Unit} (hx : x h = server.handBack n h) :
    ∃ t, t.call = .release n ∧ Parts server n h t (x h) := by
  rw [hx]
  exact ⟨⟨.release n, h.now, h.now, .reply .done⟩, rfl, rfl, rfl, nofun, fun _ => rfl⟩

theorem parts_of_discarded {x : Act σ Unit} (hx : x.trace h = (server.discard n).trace h) :
    ∃ t, t.call = .discard n ∧ Parts server n h t (x h) :=
  ⟨⟨.discard n, h.now, h.now, .reply .done⟩, rfl, congrArg Trace.trips hx,
    congrArg (fun t : Trace σ Unit => t.host.server) hx, nofun, fun _ => congrArg Trace.outcome hx⟩

/-- **Exactly once.**  For a connection that is still lent one call is made, the letting go of its account
included. -/
theorem parts {c : Checkout} (hlent : c.lent = some lender) (p : Parting) :
    ∃ t, t.call = p.call n c.inTransaction ∧ Parts server n h t (c.part server n p h) := by
  obtain ⟨lent, inTransaction⟩ := c
  subst hlent
  cases p with
  | release =>
      cases inTransaction with
      | false => exact parts_of_pooled rfl
      | true =>
          obtain ⟨t, hcall, e⟩ := trace_release_of_open server n lender h
          refine ⟨t, hcall, congrArg Trace.trips e, ?_, fun _ => congrArg Trace.outcome e,
            fun hne => absurd hcall hne⟩
          rw [hcall]
          exact congrArg (fun t : Trace σ Unit => t.host.server) e
  | discard => cases inTransaction <;> exact parts_of_discarded rfl
  | drop =>
      cases inTransaction with
      | false => exact parts_of_pooled rfl
      | true => exact parts_of_discarded rfl

end Checkout

/-! ### What has been begun -/

/-- A use and how it ended. -/
abbrev Used := Use × Outcome Reply

/-- Whether a use has begun a transaction. -/
def Used.Begins (u : Used) : Prop := u.1 = .control .begin ∧ Slot.succeeded u.2 = true

/-- Whether a use has ended the transaction. -/
def Used.Ends (u : Used) : Prop :=
  (u.1 = .control .commit ∨ u.1 = .control .rollback) ∧ Slot.succeeded u.2 = true

/-- Whether a begin has succeeded, and no commit and no rollback since. -/
def Begun (log : List Used) : Prop :=
  ∃ before u after, log = before ++ u :: after ∧ Used.Begins u ∧ ∀ v ∈ after, ¬ Used.Ends v

variable {log : List Used} {u : Used}

theorem not_begun_nil : ¬ Begun [] := by
  rintro ⟨before, u, after, he, -⟩
  cases before <;> cases he

/-- The last use decides, or leaves things as they were. -/
theorem begun_concat : Begun (log ++ [u]) ↔ u.Begins ∨ Begun log ∧ ¬ u.Ends := by
  constructor
  · rintro ⟨before, v, after, he, hbegins, hafter⟩
    rcases List.eq_nil_or_concat after with rfl | ⟨after, w, rfl⟩
    · obtain ⟨-, hlast⟩ := List.append_inj' he rfl
      obtain rfl : u = v := by simpa using hlast
      exact .inl hbegins
    · rw [List.concat_eq_append] at he hafter
      rw [← List.cons_append, ← List.append_assoc] at he
      obtain ⟨rfl, hlast⟩ := List.append_inj' he rfl
      obtain rfl : u = w := by simpa using hlast
      refine .inr ⟨⟨before, v, after, rfl, hbegins, fun w hw => hafter w ?_⟩, hafter u ?_⟩
      · exact List.mem_append_left _ hw
      · exact List.mem_concat_self
  · rintro (hbegins | ⟨⟨before, v, after, rfl, hbegins, hafter⟩, hends⟩)
    · exact ⟨log, u, [], rfl, hbegins, nofun⟩
    · refine ⟨before, v, after ++ [u], by simp, hbegins, fun w hw => ?_⟩
      rcases List.mem_append.mp hw with hw | hw
      · exact hafter w hw
      · rwa [List.mem_singleton.mp hw]

/-! ### Uses of a slot -/

/-- The account of a connection after a use. -/
def Checkout.afterUse (c : Checkout) (u : Used) : Checkout :=
  match u.1 with
  | .control k => c.afterControl k (Slot.succeeded u.2)
  | .ping | .fetch _ _ | .execute _ _ => c

theorem Checkout.lent_afterUse (c : Checkout) (u : Used) : (c.afterUse u).lent = c.lent := by
  obtain ⟨use, o⟩ := u
  cases use with
  | control k =>
      simp only [afterUse, afterControl]
      split <;> rfl
  | ping | fetch | execute => rfl

/-- The account follows what has been begun. -/
theorem Checkout.inTransaction_afterUse (c : Checkout) (u : Used) :
    (c.afterUse u).inTransaction = true ↔ u.Begins ∨ c.inTransaction = true ∧ ¬ u.Ends := by
  obtain ⟨use, o⟩ := u
  cases use with
  | control k =>
      simp only [afterUse, afterControl, Used.Begins, Used.Ends]
      cases k <;> cases Slot.succeeded o <;> simp
  | ping | fetch | execute => simp [afterUse, Used.Begins, Used.Ends]

namespace Slot

variable {σ : Type} (server : Server σ) (backend : Backend)

/-- Uses the connection of a slot. -/
def use (s : Slot σ) : Use → Outcome Reply × Slot σ
  | .control c => s.control server backend c
  | .ping => s.call server backend .ping
  | .fetch sql params => s.call server backend fun n => .fetch (.conn n) sql params
  | .execute sql params => s.call server backend fun n => .execute (.conn n) sql params

/-- Uses it again and again, whatever the server makes of it. -/
def useAll (s : Slot σ) : List Use → List Used × Slot σ
  | [] => ([], s)
  | u :: later =>
    let (o, t) := s.use server backend u
    let (log, last) := t.useAll later
    ((u, o) :: log, last)

/-- How a server lets a call end. -/
def answer (s : Slot σ) (call : Call) : Outcome Reply :=
  (server.react s.host.server call).1.ending.outcome

/-- A slot after a call, holding what is given. -/
def afterCall (s : Slot σ) (call : Call) (held : Option (ConnId × Checkout)) : Slot σ :=
  let run := server.call call s.host
  ⟨run.host, s.journal ++ run.journal, held⟩

/-- The round trips that have been made on the host of a slot. -/
def trips (s : Slot σ) : List RoundTrip := s.journal.filterMap Entry.trip?

variable {server backend} {s : Slot σ} {n : ConnId} {c : Checkout} {lender : Backend}

theorem call_eq (hheld : s.held = some (n, c)) (hlent : c.lent = some lender) (f : ConnId → Call) :
    s.call server backend f = (s.answer server (f n), s.afterCall server (f n) s.held) := by
  have hinner : s.inner = .ok () := by simp [inner, hheld, Checkout.inner, hlent, Except.map]
  simp only [call, fill, hheld, after, hinner]
  rfl

theorem use_eq (hheld : s.held = some (n, c)) (hlent : c.lent = some lender) (u : Use) :
    s.use server backend u = (s.answer server (u.call n),
      s.afterCall server (u.call n) (some (n, c.afterUse (u, s.answer server (u.call n))))) := by
  cases u with
  | control k =>
      rw [use, control, call_eq hheld hlent]
      simp only [afterCall, hheld]
      rfl
  | ping | fetch | execute =>
      rw [use, call_eq hheld hlent, hheld]
      rfl

/-- Whether a slot holds a connection, still lent, that keeps account of what has been begun. -/
def Accounts (s : Slot σ) (n : ConnId) (log : List Used) : Prop :=
  ∃ c lender, s.held = some (n, c) ∧ c.lent = some lender ∧ (c.inTransaction = true ↔ Begun log)

theorem Accounts.use (h : s.Accounts n log) (u : Use) :
    (s.use server backend u).2.Accounts n (log ++ [(u, (s.use server backend u).1)]) := by
  obtain ⟨c, lender, hheld, hlent, haccount⟩ := h
  rw [use_eq hheld hlent]
  refine ⟨_, lender, rfl, (c.lent_afterUse _).trans hlent, ?_⟩
  rw [c.inTransaction_afterUse, begun_concat, haccount]

/-- **The account is kept** through all uses. -/
theorem Accounts.useAll (uses : List Use) (h : s.Accounts n log) :
    (s.useAll server backend uses).2.Accounts n (log ++ (s.useAll server backend uses).1) := by
  induction uses generalizing s log with
  | nil => simpa [Slot.useAll] using h
  | cons u later ih => simpa [Slot.useAll] using ih (h.use u)

theorem trips_use (h : s.Accounts n log) (u : Use) :
    (s.use server backend u).2.trips.map RoundTrip.call = s.trips.map RoundTrip.call ++ [u.call n] := by
  obtain ⟨c, lender, hheld, hlent, -⟩ := h
  rw [use_eq hheld hlent]
  simp [trips, afterCall, Server.call, Entry.trip?]

theorem trips_useAll (uses : List Use) (h : s.Accounts n log) :
    (s.useAll server backend uses).2.trips.map RoundTrip.call =
      s.trips.map RoundTrip.call ++ uses.map fun u => u.call n := by
  induction uses generalizing s log with
  | nil => simp [Slot.useAll]
  | cons u later ih => simpa [Slot.useAll, trips_use h u] using ih (h.use u)

theorem fst_useAll (uses : List Use) : (s.useAll server backend uses).1.map Prod.fst = uses := by
  induction uses generalizing s with
  | nil => rfl
  | cons u later ih => exact congrArg (u :: ·) ih

/-! ### What the server has open -/

/-- Whether a server opens the transaction of a connection only by a begin that succeeds, and ends it by
every commit and rollback that does, as far as calls run to their end. -/
structure Tracks (server : Server σ) (isOpen : σ → ConnId → Prop) : Prop where
  opened : ∀ {s : Slot σ} {call n held}, (s.answer server call).completed = true →
    isOpen (s.afterCall server call held).host.server n →
      isOpen s.host.server n ∨ call = .begin n ∧ succeeded (s.answer server call) = true
  ended : ∀ {s : Slot σ} {call n held}, call = .commit n ∨ call = .rollback n →
    succeeded (s.answer server call) = true → ¬ isOpen (s.afterCall server call held).host.server n

variable {isOpen : σ → ConnId → Prop}

theorem Tracks.use (htracks : Tracks server isOpen) (h : s.Accounts n log) (u : Use)
    (hdone : (s.use server backend u).1.completed = true)
    (hopen : isOpen s.host.server n → Begun log) :
    isOpen (s.use server backend u).2.host.server n →
      Begun (log ++ [(u, (s.use server backend u).1)]) := by
  obtain ⟨c, lender, hheld, hlent, -⟩ := h
  rw [use_eq hheld hlent] at hdone ⊢
  intro hafter
  have hends : ¬ Used.Ends (u, s.answer server (u.call n)) := by
    rintro ⟨rfl | rfl, hsucceeded⟩
    · exact htracks.ended (.inl rfl) hsucceeded hafter
    · exact htracks.ended (.inr rfl) hsucceeded hafter
  rw [begun_concat]
  rcases htracks.opened hdone hafter with hbefore | ⟨hcall, hsucceeded⟩
  · exact .inr ⟨hopen hbefore, hends⟩
  · refine .inl ⟨?_, hsucceeded⟩
    match u, hcall with
    | .control .begin, _ => rfl

/-- What is open has been begun. -/
theorem Tracks.useAll (htracks : Tracks server isOpen) (uses : List Use) (h : s.Accounts n log)
    (hdone : ∀ u ∈ (s.useAll server backend uses).1, u.2.completed = true)
    (hopen : isOpen s.host.server n → Begun log) :
    isOpen (s.useAll server backend uses).2.host.server n →
      Begun (log ++ (s.useAll server backend uses).1) := by
  induction uses generalizing s log with
  | nil => simpa [Slot.useAll] using hopen
  | cons u later ih =>
      obtain ⟨hfirst, hlater⟩ := List.forall_mem_cons.mp hdone
      have hrest := ih (h.use u) hlater (htracks.use h u hfirst hopen)
      simpa [Slot.useAll] using hrest

/-! ### Back in the pool -/

/-- **No open transaction goes back to the pool.**  A connection that has been checked out is used in any
way and on any server, and let go in one of three ways.  One call is then made for it, after those of its
uses, and the slot is empty.  The call hands the connection back exactly if it has been released or dropped
and no begin has succeeded on it since the last commit or rollback that did; else it is closed, if it is
released, or discarded.  Only closing can fail.  What tracks the transactions of the server finds none open
on a connection that is handed back. -/
theorem pooled_iff_not_begun (server : Server σ) (backend lender : Backend) (host : Host σ) (n : ConnId)
    (uses : List Use) (parting : Parting) :
    let used := Slot.useAll server backend ⟨host, [], some (n, .fresh lender)⟩ uses
    let log := used.1
    let before := used.2
    let parted := before.vacate server parting
    log.map Prod.fst = uses ∧ before.trips.map RoundTrip.call = uses.map (fun u => u.call n) ∧
    ∃ t, parted.2.trips = before.trips ++ [t] ∧
      (t.call = .release n ↔ parting ≠ .discard ∧ ¬ Begun log) ∧
      (t.call = .close n ↔ parting = .release ∧ Begun log) ∧
      (t.call = .discard n ↔ parting = .discard ∨ parting = .drop ∧ Begun log) ∧
      parted.2.host.server = (server.react before.host.server t.call).2 ∧
      (t.call = .close n →
        parted.1 = (server.react before.host.server (.close n)).1.ending.done) ∧
      (t.call ≠ .close n → parted.1 = .value ()) ∧
      parted.2.held = none ∧
      ∀ isOpen, Tracks server isOpen → (∀ u ∈ log, u.2.completed = true) → ¬ isOpen host.server n →
        t.call = .release n → ¬ isOpen before.host.server n := by
  intro used log before parted
  have hfresh : Accounts ⟨host, [], some (n, .fresh lender)⟩ n [] :=
    ⟨_, lender, rfl, rfl, iff_of_false Bool.false_ne_true not_begun_nil⟩
  have hused : before.Accounts n ([] ++ log) := hfresh.useAll uses
  rw [List.nil_append] at hused
  obtain ⟨c, lender', hheld, hlent, haccount⟩ := hused
  obtain ⟨t, hcall, hparts⟩ : ∃ t, t.call = parting.call n c.inTransaction ∧
      Parts server n before.host t (c.part server n parting before.host) := Checkout.parts hlent parting
  obtain ⟨hpooled, hclosed, hdiscarded⟩ := parting.call_iffs n c.inTransaction
  rw [← hcall, haccount] at hpooled hclosed hdiscarded
  have hvacate : parted = ((c.part server n parting before.host).outcome,
      ⟨(c.part server n parting before.host).host,
        before.journal ++ (c.part server n parting before.host).journal, none⟩) := by
    simp only [parted, vacate, hheld, after]
  rw [hvacate]
  refine ⟨fst_useAll uses, trips_useAll uses hfresh, t, ?_, hpooled, hclosed, hdiscarded,
    hparts.server_eq, hparts.outcome_of_close, hparts.outcome_of_other, rfl, ?_⟩
  · simp only [trips, List.filterMap_append, ← hparts.trips_eq, Run.trips]
  · intro isOpen htracks hdone hclean hback hopen
    have hbegun := htracks.useAll uses hfresh hdone (fun h => absurd h hclean) hopen
    exact (hpooled.mp hback).2 hbegun

open Sqlite.KeyValue (Store)

theorem succeeded_outcome {e : Ending} (h : succeeded e.outcome = true) : ∃ r, e = .reply r := by
  cases e with
  | reply r => exact ⟨r, rfl⟩
  | failure | panic | never => cases h

theorem tracks_store : Tracks Store.server Store.IsOpen where
  opened _ h := (Store.isOpen_of_react h).imp_right fun ⟨hcall, hreply⟩ =>
    ⟨hcall, congrArg (fun e : Ending => succeeded e.outcome) hreply⟩
  ended hcall h := Store.not_isOpen_of_react hcall (succeeded_outcome h)

/-- Of two begins and two commits on a store the second ones fail, and what the pool gets back is clean. -/
theorem pooled_iff_not_begun_store :
    let used := Slot.useAll Store.server .sqlite ⟨⟨.empty, 0, 1, []⟩, [], some (1, .fresh .sqlite)⟩
      [.control .begin, .control .begin, .ping, .control .commit, .control .commit]
    let parted := used.2.vacate Store.server .release
    used.1.map (fun u => succeeded u.2) = [true, false, true, true, false] ∧ ¬ Begun used.1 ∧
    parted.2.trips.map RoundTrip.call =
      [.begin 1, .begin 1, .ping 1, .commit 1, .commit 1, .release 1] ∧
    ¬ used.2.host.server.IsOpen 1 ∧ parted.2.held = none := by
  intro used parted
  obtain ⟨-, hcalls, t, htrips, hpooled, -, -, -, -, -, hempty, hclean⟩ :=
    pooled_iff_not_begun Store.server .sqlite .sqlite ⟨.empty, 0, 1, []⟩ 1
      [.control .begin, .control .begin, .ping, .control .commit, .control .commit] .release
  have hparted : parted.2.trips.map RoundTrip.call =
    [.begin 1, .begin 1, .ping 1, .commit 1, .commit 1, .release 1] := by rfl
  have hback : t.call = .release 1 := by
    have hlast := congrArg (fun l => (l.map RoundTrip.call).getLast?) htrips
    change (parted.2.trips.map RoundTrip.call).getLast? = _ at hlast
    rw [hparted, List.map_append, List.map_singleton, List.getLast?_concat] at hlast
    exact (Option.some.inj hlast).symm
  exact ⟨by rfl, (hpooled.mp hback).2, hparted,
    hclean Store.IsOpen tracks_store (by decide) (by simp [Store.IsOpen, Store.empty]) hback, hempty⟩

end Slot

end Pool

end SqlSession
