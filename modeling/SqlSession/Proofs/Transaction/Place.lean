import SqlSession.Proofs.Custody.Operations
import SqlSession.Proofs.Transaction.Nested

/-! # Where statements run

Round trips tell which connection has an open transaction (`openAfter`).  A statement of a context that
holds nothing but open transactions runs on the connection of the open one, and on none only if none is
open (`InPlace`).  Begins, statements and ends of transactions keep to that, in whatever order they come
and whatever becomes of them (`Proper`). -/

namespace SqlSession

/-! ### Open transactions, as round trips tell -/

/-- The target of a statement. -/
def Call.target? : Call → Option Target
  | fetch target _ _ => some target
  | execute target _ _ => some target
  | _ => none

/-- A call on the way to a verified connection. -/
def Call.isConnecting : Call → Bool
  | acquire => true
  | ping _ => true
  | discard _ => true
  | _ => false

/-- A call on the way to an open transaction. -/
def Call.isBeginning (call : Call) : Bool :=
  match call with
  | begin _ => true
  | _ => call.isConnecting

theorem Call.isBeginning_of_isConnecting {call : Call} (h : call.isConnecting = true) :
    call.isBeginning = true := by
  cases call <;> simp_all [isBeginning, isConnecting]

theorem Call.isBeginning_of_discarded? {call : Call} (h : call.discarded?.isSome = true) :
    call.isBeginning = true := by
  cases call <;> simp_all [isBeginning, isConnecting, discarded?]

theorem Call.target?_of_isBeginning {call : Call} (h : call.isBeginning = true) :
    call.target? = none := by
  cases call <;> simp_all [isBeginning, isConnecting, target?]

theorem Call.released?_of_isBeginning {call : Call} (h : call.isBeginning = true) :
    call.released? = none := by
  cases call <;> simp_all [isBeginning, isConnecting, released?]

/-- The target that a transaction gives to statements. -/
def Target.within : Option ConnId → Target
  | some c => conn c
  | none => oneShot

/-- The connection with the open transaction, of which a handle knows. -/
def Handle.transaction? : Handle → Option ConnId
  | transaction c => some c
  | _ => none

namespace RoundTrip

/-- The connection with the open transaction after a round trip, given the one before. -/
def passOn (opened : Option ConnId) (t : RoundTrip) : Option ConnId :=
  match t.call with
  | .begin c => if t.succeeded then some c else opened
  | .commit _ => if t.succeeded then none else opened
  | .rollback _ => if t.succeeded then none else opened
  | .discard _ => none
  | _ => opened

/-- The connection with the open transaction after round trips. -/
def openAfter (opened : Option ConnId) (l : List RoundTrip) : Option ConnId := l.foldl passOn opened

/-- Whether each statement runs in the transaction that is open when it comes, or in none if there is
none. -/
def InPlace : Option ConnId → List RoundTrip → Prop
  | _, [] => True
  | opened, t :: l =>
    (∀ target, t.call.target? = some target → target = .within opened) ∧ InPlace (t.passOn opened) l

theorem openAfter_append (opened : Option ConnId) (l m : List RoundTrip) :
    openAfter opened (l ++ m) = openAfter (openAfter opened l) m := List.foldl_append

theorem inPlace_append {opened : Option ConnId} {l m : List RoundTrip} (hl : InPlace opened l)
    (hm : InPlace (openAfter opened l) m) : InPlace opened (l ++ m) := by
  induction l generalizing opened with
  | nil => exact hm
  | cons t l ih => exact ⟨hl.1, ih hl.2 hm⟩

/-- Round trips without a statement are in place. -/
theorem inPlace_of_none {l : List RoundTrip} (hl : ∀ t ∈ l, t.call.target? = none) :
    ∀ opened, InPlace opened l := by
  induction l with
  | nil => exact fun _ => trivial
  | cons t l ih =>
      refine fun opened => ⟨fun target ht => ?_, ih (fun u hu => hl u (List.mem_cons_of_mem t hu)) _⟩
      rw [hl t List.mem_cons_self] at ht
      cases ht

theorem passOn_of_isPlain {t : RoundTrip} (ht : t.call.isPlain = true) (opened : Option ConnId) :
    t.passOn opened = opened := by
  unfold passOn
  cases hc : t.call <;> simp_all [Call.isPlain]

end RoundTrip

open RoundTrip (openAfter InPlace)

section
variable {drops : Prop} {hd hd' : Handle} {n n' : Nat}

/-- A handle knows of the open transaction after a move, if it has known before. -/
theorem Move.openAfter (hdrops : ¬ drops) {e : Entry} (hm : Move drops hd n e hd' n') :
    RoundTrip.openAfter hd.transaction? e.trip?.toList = hd'.transaction? := by
  cases hm with
  | event => rfl
  | sample => rfl
  | plain ht _ _ => exact RoundTrip.passOn_of_isPlain ht _
  | acquired ht _ => exact RoundTrip.passOn_of_isPlain (by rw [ht]; rfl) _
  | begun ht =>
      simp only [Entry.trip?, Option.toList_some, RoundTrip.openAfter, List.foldl_cons, List.foldl_nil,
        RoundTrip.passOn, ht]
      split <;> rfl
  | ended ht =>
      rcases ht with ht | ht <;>
        simp only [Entry.trip?, Option.toList_some, RoundTrip.openAfter, List.foldl_cons,
          List.foldl_nil, RoundTrip.passOn, ht] <;> split <;> rfl
  | released ht => simp [Entry.trip?, RoundTrip.openAfter, RoundTrip.passOn, ht, Handle.transaction?]
  | discarded _ ht =>
      simp [Entry.trip?, RoundTrip.openAfter, RoundTrip.passOn, ht, Handle.transaction?]
  | dropped _ h => exact absurd h hdrops

theorem Moves.openAfter (hdrops : ¬ drops) {l : List Entry} (hm : Moves drops hd n l hd' n') :
    RoundTrip.openAfter hd.transaction? (l.filterMap Entry.trip?) = hd'.transaction? := by
  induction hm with
  | none => rfl
  | @more l hd' hd'' n' n'' e _ he ih =>
      have hone : [e].filterMap Entry.trip? = e.trip?.toList := by
        cases h : e.trip? <;> simp [h]
      rw [List.filterMap_append, RoundTrip.openAfter_append, ih, hone]
      exact he.openAfter hdrops

theorem Moves.handedOut_le {l : List Entry} (hm : Moves drops hd n l hd' n') : n ≤ n' := by
  induction hm with
  | none => exact Nat.le_refl n
  | more _ he ih => exact Nat.le_trans ih (he.handedOut ▸ Nat.le_add_right _ _)

/-- The connection of a handle has been handed out after the first `m`. -/
def Handle.After (m n : Nat) (hd : Handle) : Prop := m ≤ n ∧ ∀ c, hd.conn? = some c → m < c ∧ c ≤ n

/-- A move is made on the connection of the handle. -/
theorem Handle.after_detached {m n : Nat} (hle : m ≤ n) : Handle.detached.After m n :=
  ⟨hle, fun _ hc => by cases hc⟩

theorem Move.after {m : Nat} {e : Entry} (hm : Move drops hd n e hd' n') (ha : hd.After m n) :
    hd'.After m n' ∧ ∀ t, e = .call t → ∀ c, t.call.conn? = some c → m < c := by
  obtain ⟨hle, hconn⟩ := ha
  cases hm with
  | event => exact ⟨⟨hle, hconn⟩, fun t he => by cases he⟩
  | sample => exact ⟨⟨hle, hconn⟩, fun t he => by cases he⟩
  | plain ht _ hc =>
      exact ⟨⟨hle, hconn⟩, fun t he c hcall => (hconn c (hc c (by cases he; exact hcall))).1⟩
  | @acquired _ t ht hs =>
      refine ⟨⟨by omega, fun c hc => ?_⟩, fun u he c hcall => ?_⟩
      · obtain rfl : n + 1 = c := by simpa using hc
        exact ⟨Nat.lt_succ_of_le hle, Nat.le_refl _⟩
      · cases he
        simp [ht, Call.conn?] at hcall
  | @begun _ t c ht =>
      refine ⟨⟨hle, fun d hd => hconn d ?_⟩, fun u he d hcall => (hconn d ?_).1⟩
      · revert hd
        split <;> simp
      · cases he
        simpa [ht, Call.conn?] using hcall
  | @ended _ t c ht =>
      refine ⟨⟨hle, fun d hd => hconn d ?_⟩, fun u he d hcall => (hconn d ?_).1⟩
      · revert hd
        split <;> simp
      · cases he
        rcases ht with ht | ht <;> simpa [ht, Call.conn?] using hcall
  | released ht =>
      refine ⟨Handle.after_detached hle, fun u he d hcall => (hconn d ?_).1⟩
      cases he
      simpa [ht, Call.conn?] using hcall
  | @discarded _ _ _ c hc ht =>
      refine ⟨Handle.after_detached hle, fun u he d hcall => (hconn d ?_).1⟩
      cases he
      rw [hc]
      simpa [ht, Call.conn?] using hcall
  | dropped => exact ⟨Handle.after_detached hle, fun t he => by cases he⟩

theorem Moves.after {m : Nat} {l : List Entry} (hm : Moves drops hd n l hd' n') (ha : hd.After m n) :
    hd'.After m n' ∧ ∀ t ∈ l.filterMap Entry.trip?, ∀ c, t.call.conn? = some c → m < c := by
  induction hm with
  | none => exact ⟨ha, List.forall_mem_nil _⟩
  | @more l hd' hd'' n' n'' e _ he ih =>
      obtain ⟨ha', hl⟩ := ih
      obtain ⟨ha'', he'⟩ := he.after ha'
      refine ⟨ha'', fun t ht c hc => ?_⟩
      rw [List.filterMap_append] at ht
      rcases List.mem_append.mp ht with ht | ht
      · exact hl t ht c hc
      · have het : e.trip? = some t := by
          cases h : e.trip? <;> simp_all
        cases e with
        | call u =>
            obtain rfl : u = t := by simpa [Entry.trip?] using het
            exact he' u rfl c hc
        | _ => cases het

end

/-! ### Runs that leave statements in place -/

/-- The context of an id holds nothing or an open transaction, and no connection of the first `m`. -/
structure Host.Between (id : String) (m : Nat) (h : Host σ) : Prop where
  sound : (h.context id).Sound
  not_idle : ∀ c, (h.context id).handle ≠ .connection c
  after : (h.context id).handle.After m h.handedOut

/-- A run whose statements are in place, with what it leaves open known to the context of an id.  It has
nothing to do with the first `m` connections. -/
structure Trace.Orderly (id : String) (m : Nat) (opened : Option ConnId) (t : Trace σ α) : Prop where
  between : t.host.Between id m
  openAfter_eq : openAfter opened t.trips = (t.host.context id).handle.transaction?
  inPlace : InPlace opened t.trips
  later : ∀ u ∈ t.trips, ∀ c, u.call.conn? = some c → m < c

namespace Host.Between

variable {id : String} {m : Nat} {h : Host σ}

theorem cases (hb : h.Between id m) : ∃ deadline, h.context id = .vacant id deadline ∨
    ∃ c n, h.context id = .opened id c (n + 1) deadline := by
  obtain ⟨deadline, hx | ⟨c, hx⟩ | hx⟩ := Host.context_cases hb.sound
  · exact ⟨deadline, .inl hx⟩
  · exact absurd (by rw [hx]; rfl) (hb.not_idle c)
  · exact ⟨deadline, .inr hx⟩

theorem of_vacant {deadline : Option Instant} (hx : h.context id = .vacant id deadline)
    (hm : m ≤ h.handedOut) : h.Between id m where
  sound := by rw [hx]; exact Context.sound_vacant id deadline
  not_idle := by rw [hx]; exact nofun
  after := by rw [hx]; exact ⟨hm, nofun⟩

/-- The target of a context between transactions is the open transaction, or none. -/
theorem ofHandle_eq (hb : h.Between id m) :
    Target.ofHandle (h.context id).handle = .within (h.context id).handle.transaction? := by
  obtain ⟨deadline, hx | ⟨c, n, hx⟩⟩ := hb.cases <;> rw [hx] <;> rfl

end Host.Between

namespace Trace.Orderly

variable {id : String} {m : Nat} {opened : Option ConnId} {t : Trace σ α}

theorem withOutcome (ht : t.Orderly id m opened) (f : Outcome α → Outcome β) :
    (t.withOutcome f).Orderly id m opened := ⟨ht.between, ht.openAfter_eq, ht.inPlace, ht.later⟩

theorem andThen {k : α → Host σ → Trace σ β} (ht : t.Orderly id m opened)
    (hk : ∀ a, (k a t.host).Orderly id m (t.host.context id).handle.transaction?) :
    (t.andThen k).Orderly id m opened := by
  obtain ⟨o, h, l⟩ := t
  cases o with
  | value a =>
      have ha := hk a
      refine ⟨ha.between, ?_, ?_, ?_⟩
      · rw [Trace.andThen_value, Trace.trips_after, RoundTrip.openAfter_append, ht.openAfter_eq]
        exact ha.openAfter_eq
      · rw [Trace.andThen_value, Trace.trips_after]
        refine RoundTrip.inPlace_append ht.inPlace ?_
        rw [ht.openAfter_eq]
        exact ha.inPlace
      · intro u hu
        rw [Trace.andThen_value, Trace.trips_after, List.mem_append] at hu
        exact hu.elim (ht.later u) (ha.later u)
  | _ => exact ⟨ht.between, ht.openAfter_eq, ht.inPlace, ht.later⟩

end Trace.Orderly

/-- Whether all runs of an act that start between transactions leave statements in place. -/
def Act.Proper (id : String) (x : Act σ α) : Prop :=
  ∀ m h, h.Between id m → (x.trace h).Orderly id m (h.context id).handle.transaction?

namespace Act.Proper

variable {id : String}

/-- An operation moves connections properly; what is left to show is that its statements are in place,
and that it leaves no idle connection. -/
theorem of_keeps {x : Act σ α} (hk : Service.KeepsOn False id x)
    (hplace : ∀ m h, h.Between id m →
      InPlace (h.context id).handle.transaction? (x.trace h).trips)
    (hidle : ∀ m h, h.Between id m → ∀ c, ((x.trace h).host.context id).handle ≠ .connection c) :
    x.Proper id := by
  intro m h hb
  obtain ⟨hd, hm, hkeep⟩ := hk h hb.sound
  obtain ⟨hafter, hlater⟩ := hm.after hb.after
  have hopen := hm.openAfter not_false
  rw [← hkeep.handle_eq] at hopen hafter
  exact ⟨⟨hkeep.sound, hidle m h hb, hafter⟩, hopen, hplace m h hb, hlater⟩

theorem pure (a : α) : (Pure.pure a : Act σ α).Proper id :=
  fun _ _ hb => ⟨hb, rfl, trivial, List.forall_mem_nil _⟩

theorem bind {x : Act σ α} {k : α → Act σ β} (hx : x.Proper id) (hk : ∀ a, (k a).Proper id) :
    (x >>= k).Proper id := by
  intro m h hb
  have hfirst := hx m h hb
  simp only [trace_bind]
  exact hfirst.andThen fun a => hk a m _ hfirst.between

theorem settle {x : Act σ α} (hx : x.Proper id) : (Act.settle x).Proper id := by
  intro m h hb
  simp only [trace_settle]
  exact (hx m h hb).withOutcome _

end Act.Proper

/-! ### Statements and transactions are proper -/

namespace RoundTrip

/-- Statements at the target of the open transaction are in place. -/
theorem inPlace_of_within {opened : Option ConnId} {l : List RoundTrip}
    (hl : ∀ t ∈ l, t.call.isPlain = true ∧ t.call.target? = some (.within opened)) :
    InPlace opened l := by
  induction l with
  | nil => trivial
  | cons t l ih =>
      obtain ⟨hplain, htarget⟩ := hl t List.mem_cons_self
      refine ⟨fun target ht => ?_, ?_⟩
      · rw [htarget] at ht
        exact (Option.some.inj ht).symm
      · rw [passOn_of_isPlain hplain]
        exact ih fun u hu => hl u (List.mem_cons_of_mem t hu)

end RoundTrip

theorem Errand.callAt_target {target : Target} {e : Errand} {call : Call}
    (hc : e.callAt target = .ok call) : call.isPlain = true ∧ call.target? = some target := by
  obtain ⟨_, _, ⟨_, rfl⟩ | ⟨_, rfl⟩⟩ := e.eq_of_callAt hc
  · exact ⟨rfl, rfl⟩
  · exact ⟨rfl, rfl⟩

namespace Service

variable {s : Service σ} {id : String}

theorem KeepsOn.handedOut_le {drops : Prop} {x : Act σ α} {h : Host σ} (hx : KeepsOn drops id x)
    (hs : (h.context id).Sound) : h.handedOut ≤ (x.trace h).host.handedOut := by
  obtain ⟨hd, hm, _⟩ := hx h hs
  exact hm.handedOut_le

theorem keeps_perform {drops : Prop} (e : Errand) : KeepsOn drops id (s.perform id e) :=
  .bind (keeps_statementAct e.kind e.request) fun _ => .pure ()

theorem runAt_makes (deadline : Option Instant) (target : Target) (e : Errand) :
    (s.runAt deadline target e).Makes fun call => call.isPlain = true ∧ call.target? = some target := by
  refine .ofExcept_bind fun call hc => .bind (.budget _ _) fun b => ?_
  refine .bind (.callWithin (Errand.callAt_target hc) _ _ _) fun r => ?_
  cases e.judge r with
  | ok a => exact .pure a
  | error f => exact .fail f

theorem proper_perform (e : Errand) : (s.perform id e).Proper id := by
  refine .of_keeps (keeps_perform e) (fun m h hb => ?_) fun m h hb => ?_
  · rw [trace_perform_at rfl, hb.ofHandle_eq]
    exact RoundTrip.inPlace_of_within (s.runAt_makes _ _ e h)
  · rw [trace_perform_at rfl, (s.aloof_runAt _ _ e).context_eq]
    exact hb.not_idle

/-! ### Begins and ends make no statement -/

theorem tryConnect_makes (deadline : Option Instant) :
    (s.tryConnect deadline).Makes fun call => call.isConnecting = true := by
  refine .bind (.budget _ _) fun b => .bind (.callWithin (by rfl) _ _ _) fun _ => .bind .handOut fun c =>
    .bind (.settle (.callWithin (by rfl) _ _ _)) fun ended => ?_
  cases ended with
  | value r => exact .pure c
  | failure f => exact .bind (.discard (by rfl) _) fun _ => .fail f
  | panic p => exact .bind (.drop _ _) fun _ => .panic p

theorem connectWithin_makes (deadline : Option Instant) : ∀ left next,
    (s.connectWithin deadline left next).Makes fun call => call.isConnecting = true
  | 0, next => .bind (.log _) fun _ => .fail _
  | left + 1, next => by
      refine .bind (.attempt (tryConnect_makes deadline)) fun ended => ?_
      cases ended with
      | ok c => exact .pure c
      | error f => exact .bind (.log _) fun _ => connectWithin_makes deadline left (next + 1)

theorem startTransaction_makes (ctx : Context) (acquired : Bool) :
    (s.startTransaction ctx acquired).Makes fun call => call.isBeginning = true := by
  refine .bind (.budget _ _) fun b => ?_
  cases ctx.handle.conn? with
  | none => exact .fail _
  | some c =>
      refine .bind (.attempt (.callWithin (by rfl) _ _ _)) fun ended => ?_
      cases ended with
      | ok r => exact .bind (.store _) fun _ => .log _
      | error f =>
          cases acquired with
          | false => exact .fail f
          | true => exact .bind (.store _) fun _ => .bind (.discard (by rfl) _) fun _ => .fail f

theorem beginUnguarded_makes : (s.beginUnguarded id).Makes fun call => call.isBeginning = true := by
  refine .bind (.context id) fun ctx => ?_
  have hheld : (do
      let held ← Act.context id
      if held.level = 0 then s.startTransaction held ctx.handle.isDetached
      else joinTransaction held : Act σ Unit).Makes fun call => call.isBeginning = true := by
    refine .bind (.context id) fun held => ?_
    split
    · exact startTransaction_makes held _
    · unfold joinTransaction
      split
      · exact .fail _
      · exact .bind (.store _) fun _ => .log _
  split
  · refine .bind ((connectWithin_makes _ _ _).imp fun call => ?_) fun c => .bind (.store _) fun _ => hheld
    exact Call.isBeginning_of_isConnecting
  · exact hheld

theorem discardUnknown_makes : (s.discardUnknown id).Makes fun call => call.discarded?.isSome = true := by
  refine .bind (.context id) fun ctx => ?_
  split
  · split
    · exact .bind (.store _) fun _ => .discard (by rfl) _
    · exact .pure ()
  · exact .pure ()

theorem begin_makes : (s.begin id).Makes fun call => call.isBeginning = true := by
  refine .observe (.bind (.settle beginUnguarded_makes) fun ended => ?_) _ _
  cases ended with
  | value a => exact .pure ()
  | failure f => exact .fail f
  | panic p =>
      refine .bind (.log _) fun _ => .bind (discardUnknown_makes.imp fun call => ?_) fun _ => .fail _
      exact Call.isBeginning_of_discarded?

theorem begin_makes_no_statement : (s.begin id).Makes fun call => call.target? = none :=
  begin_makes.imp fun _ => Call.target?_of_isBeginning

theorem commit_makes : (s.commit id).Makes fun call => call.target? = none := by
  refine .observe (.bind (.context id) fun ctx => ?_) _ _
  split
  · exact .fail _
  split
  · exact .fail _
  split
  · exact .bind (.store _) fun _ => .log _
  refine .bind (.budget _ _) fun b => ?_
  split
  · exact .fail _
  refine .bind (.callWithin (by rfl) _ _ _) fun _ => .bind (.log _) fun _ => .bind (.store _) fun _ =>
    .bind (.attempt (.call (by rfl) _)) fun ended => ?_
  cases ended with
  | ok r => exact .pure ()
  | error f => exact .bind (.log _) fun _ => .fail f

theorem rollback_makes : (s.rollback id).Makes fun call => call.target? = none := by
  refine .observe (.bind (.context id) fun ctx => ?_) _ _
  split
  · exact .pure ()
  split
  · exact .fail _
  refine .bind (.budget _ _) fun b => ?_
  split
  · exact .bind (.store _) fun _ => .bind (.log _) fun _ => .fail _
  refine .bind (.attempt (.callWithin (by rfl) _ _ _)) fun ended => .bind (.store _) fun _ => ?_
  cases ended with
  | ok r => exact .bind (.log _) fun _ => .bind (.call (by rfl) _) fun _ => .pure ()
  | error f => exact .bind (.log _) fun _ => .bind (.discard (by rfl) _) fun _ => .fail f

theorem conclude_makes : ∀ ended : Settled α,
    (s.conclude id ended).Makes fun call => call.target? = none
  | .value a => .bind commit_makes fun _ => .pure a
  | .failure f => by
      refine .bind (.attempt rollback_makes) fun r => ?_
      cases r with
      | ok a => exact .fail f
      | error g => exact .fail _
  | .panic p => by
      refine .bind (.log _) fun _ => .bind (.attempt rollback_makes) fun r => ?_
      cases r with
      | ok a => exact .bind (.pure ()) fun _ => .panic p
      | error g => exact .bind (.log _) fun _ => .panic p

theorem proper_begin (hping : ¬ s.server.PingPanics) : (s.begin id).Proper id := by
  refine .of_keeps (keeps_begin hping) (fun m h _ => RoundTrip.inPlace_of_none (begin_makes_no_statement h) _)
    fun m h hb => ?_
  obtain ⟨deadline, hx | ⟨c, n, hx⟩⟩ := hb.cases
  · rcases begin_of_vacant (s := s) hx with ⟨c, l, t, h', _, _, hopen, hbegin⟩ | ⟨_, hvacant⟩
    · rw [hbegin, hopen]
      exact nofun
    · rw [hvacant]
      exact nofun
  · have hput : (h.put (.opened id c (n + 2) deadline)).context id = .opened id c (n + 2) deadline :=
      Host.context_put rfl
    rw [trace_begin_of_open hx, hput]
    exact nofun

theorem proper_conclude (hs : s.server.CalmRollback) (ended : Settled Unit) :
    (s.conclude id ended).Proper id := by
  refine .of_keeps (keeps_conclude ended)
    (fun m h _ => RoundTrip.inPlace_of_none (conclude_makes ended h) _) fun m h hb => ?_
  obtain ⟨deadline, hx | ⟨c, n, hx⟩⟩ := hb.cases
  · have hlevel : (h.context id).level = 0 := by rw [hx]; rfl
    have hnone : ((s.conclude id ended).trace h).host = h := by
      cases ended with
      | value a => rw [trace_conclude_value, trace_commit_of_closed hlevel]; rfl
      | failure f => rw [trace_conclude_failure, trace_rollback_of_vacant hx]; rfl
      | panic p => rw [trace_conclude_panic, trace_rollback_of_vacant hx]; rfl
    rw [hnone]
    exact hb.not_idle
  have hclosed {tail : Trace σ Unit} {h' : Host σ} (hc : Closing id c deadline tail h') :
      ∀ d, (h'.context id).handle ≠ .connection d := by
    rcases hc with hnone | ⟨⟨n', hopen⟩, _⟩
    · rw [hnone]; exact nofun
    · rw [hopen]; exact nofun
  by_cases hf : ended.outcome.isFault = true
  · obtain ⟨h', hend, hclose, _⟩ := trace_conclude_of_open hs hx ended hf
    rw [hend]
    exact hclosed hclose
  cases n with
  | zero =>
      obtain ⟨h', hend, hclose⟩ := trace_conclude_of_outer hs hx ended
      rw [hend]
      exact hclosed hclose
  | succ n =>
      cases ended with
      | value a =>
          have hput : (h.put (.opened id c (n + 1) deadline)).context id =
              .opened id c (n + 1) deadline := Host.context_put rfl
          rw [trace_conclude_value, trace_commit_of_nested hx, Trace.andThen_value, Trace.after_nil,
            hput]
          exact nofun
      | failure f => exact absurd rfl hf
      | panic p => exact absurd rfl hf

theorem proper_withTransaction (hping : ¬ s.server.PingPanics) (hs : s.server.CalmRollback)
    {x : Act σ Unit} (hx : x.Proper id) : (s.withTransaction id x).Proper id :=
  .bind (proper_begin hping) fun _ => .bind (.settle hx) fun ended => proper_conclude hs ended

end Service

end SqlSession
