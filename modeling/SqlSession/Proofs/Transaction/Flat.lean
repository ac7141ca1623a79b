import SqlSession.Proofs.Act.Calls
import SqlSession.Rehearsal.Play

/-! # Flat transactions

A flat transaction is a list of statements that is run on one connection, one after the other up to the
first that does not succeed, and then committed or rolled back.  It knows of no contexts, of no nesting
and of no metrics.  `Reached` and `Concluded` say which calls it makes: those of the statements reached,
in order, and then those of one ending.  A statement that is asked of a context with a connection is run
on that connection (`trace_perform`). -/

namespace SqlSession

open Rehearsal (StatementKind Request)

/-- A statement, as a context is asked to run it. -/
structure Errand where
  kind : StatementKind
  request : Request

/-- Whether a statement gives rows. -/
def Rehearsal.StatementKind.reads : StatementKind → Bool
  | .select => true
  | .unique => true
  | .nonEmpty => true
  | .execute => false
  | .executeOne => false

namespace Errand

/-- The text and the parameters that a statement comes to. -/
def resolve (e : Errand) : Except Failure (String × List Param) :=
  match e.request with
  | .fault f => .error f.toFailure
  | .template t => t.build.mapError Statement.Fault.toFailure
  | .text sql lock params =>
    .ok (if e.kind.reads && lock then Statement.locked sql else sql, params)

/-- The call of a statement on a connection. -/
def callOn (c : ConnId) (e : Errand) : Except Failure Call :=
  e.resolve.map fun (sql, params) =>
    if e.kind.reads then .fetch (.conn c) sql params else .execute (.conn c) sql params

/-- The call of a statement at a target. -/
def callAt (target : Target) (e : Errand) : Except Failure Call :=
  e.resolve.map fun (sql, params) =>
    if e.kind.reads then .fetch target sql params else .execute target sql params

/-- A statement that resolves reads or writes. -/
theorem eq_of_callAt {target : Target} {e : Errand} {call : Call} (hc : e.callAt target = .ok call) :
    ∃ sql params, (e.kind.reads = true ∧ call = .fetch target sql params) ∨
      e.kind.reads = false ∧ call = .execute target sql params := by
  unfold callAt at hc
  rcases hr : e.resolve with f | ⟨sql, params⟩ <;> rw [hr] at hc
  · cases hc
  refine ⟨sql, params, ?_⟩
  cases hreads : e.kind.reads <;> simp only [Except.map, hreads, Except.ok.injEq] at hc
  · exact .inr ⟨rfl, hc.symm⟩
  · exact .inl ⟨rfl, hc.symm⟩

/-- The name under which a statement times out. -/
def operation (e : Errand) : String := if e.kind.reads then "select" else "execute"

/-- What a statement asks of its reply. -/
def judge (e : Errand) (r : Reply) : Except Failure Unit :=
  match e.kind with
  | .select => .ok ()
  | .execute => .ok ()
  | .unique => (QueryResult.ofRows r.rows.decode).unique.map fun _ => ()
  | .nonEmpty => ((QueryResult.ofRows r.rows.decode).unique.bind Service.someRow).map fun _ => ()
  | .executeOne => (Service.oneAffected (.ofAffected r.affected)).map fun _ => ()

end Errand

namespace Service

variable (s : Service σ) (c : ConnId) (deadline : Option Instant)

/-- The seconds that a statement may take. -/
def secsFor (e : Errand) : Nat := if e.kind.reads then s.settings.readSecs else s.settings.writeSecs

/-- Runs a statement on a connection. -/
def runOn (e : Errand) : Act σ Unit := do
  let call ← Act.ofExcept (e.callOn c)
  let b ← budget deadline (s.secsFor e)
  let reply ← s.server.callWithin b e.operation call
  Act.ofExcept (e.judge reply)

/-- Runs a statement at a target. -/
def runAt (target : Target) (e : Errand) : Act σ Unit := do
  let call ← Act.ofExcept (e.callAt target)
  let b ← budget deadline (s.secsFor e)
  let reply ← s.server.callWithin b e.operation call
  Act.ofExcept (e.judge reply)

/-- Runs a statement of a context, for no more than its success. -/
def perform (id : String) (e : Errand) : Act σ Unit := do
  let _ ← Rehearsal.statementAct s id e.kind e.request

/-- Runs statements on a connection, up to the first that does not succeed. -/
def runAllOn : List Errand → Act σ Unit
  | [] => pure ()
  | e :: later => do
    s.runOn c deadline e
    runAllOn later

/-- Commits on a connection and releases it. -/
def commitOn : Act σ Unit := do
  let b ← budget deadline s.settings.writeSecs
  let _ ← s.server.callWithin b "commit" (.commit c)
  let _ ← s.server.call (.release c)

/-- Rolls back on a connection, which is released after that, or discarded if that fails. -/
def rollbackOn : Act σ Unit := do
  let b ← budget deadline s.settings.writeSecs
  match ← Act.attempt (s.server.callWithin b "rollback" (.rollback c)) with
  | .ok _ =>
    let _ ← s.server.call (.release c)
  | .error f =>
    s.server.discard c
    Act.fail f

/-- Ends the transaction of a connection as its statements have ended. -/
def concludeOn : Settled Unit → Act σ Unit
  | .value () => s.commitOn c deadline
  | .failure f => do
    match ← Act.attempt (s.rollbackOn c deadline) with
    | .ok _ => Act.fail f
    | .error rollback => Act.fail (.rollbackFailed f rollback)
  | .panic p => do
    let _ ← Act.attempt (s.rollbackOn c deadline)
    Act.panic p

/-- Runs statements in the transaction of a connection and ends it. -/
def flatTransaction (l : List Errand) : Act σ Unit := do
  let ended ← Act.settle (s.runAllOn c deadline l)
  s.concludeOn c deadline ended

theorem runAllOn_append (l m : List Errand) (h : Host σ) :
    (s.runAllOn c deadline (l ++ m)).trace h =
      ((s.runAllOn c deadline l).trace h).andThen fun _ => (s.runAllOn c deadline m).trace := by
  induction l generalizing h with
  | nil => rfl
  | cons e l ih =>
      simp only [List.cons_append, runAllOn, Act.trace_bind]
      rcases (s.runOn c deadline e).trace h with ⟨o, h', t⟩
      cases o with
      | value a =>
          simp only [Trace.andThen_value, Trace.andThen_after, ih]
      | _ => rfl

/-! ### Statements of a context -/

section
variable {s c deadline}
variable {id : String} {h : Host σ} (hd : (h.context id).deadline = deadline)
include hd

theorem trace_select (sql : String) (lock : Bool) (params : List Param) :
    (s.select id sql lock params).trace h =
      ((budget deadline s.settings.readSecs).trace h).andThen fun b h' =>
        ((s.server.callWithin b "select" (.fetch (.ofHandle (h.context id).handle)
          (if lock then Statement.locked sql else sql) params)).trace h').andThen fun r h =>
            ⟨.value (.ofRows r.rows.decode), h, []⟩ := by
  simp [select, hd]

theorem trace_execute (sql : String) (params : List Param) :
    (s.execute id sql params).trace h =
      ((budget deadline s.settings.writeSecs).trace h).andThen fun b h' =>
        ((s.server.callWithin b "execute" (.execute (.ofHandle (h.context id).handle) sql
          params)).trace h').andThen fun r h => ⟨.value (.ofAffected r.affected), h, []⟩ := by
  simp [execute, hd]

/-- A statement of a context is run at the target of the context. -/
theorem trace_perform_at (e : Errand) : (s.perform id e).trace h =
    (s.runAt deadline (.ofHandle (h.context id).handle) e).trace h := by
  have hselect := trace_select (s := s) hd
  have hexecute := trace_execute (s := s) hd
  obtain ⟨kind, request⟩ := e
  cases request with
  | fault f => cases kind <;> rfl
  | text sql lock params =>
      cases kind <;>
        simp [perform, Rehearsal.statementAct, runAt, Errand.callAt, Errand.resolve, Errand.judge,
          Errand.operation, secsFor, StatementKind.reads, selectUnique, selectUniqueNonEmpty,
          executeOne, hselect, hexecute]
  | template t =>
      -- a template that cannot be built fails before any call, whatever is asked of it
      rcases hb : t.build.mapError Statement.Fault.toFailure with f | ⟨sql, params⟩ <;>
        cases kind <;>
        simp [perform, Rehearsal.statementAct, runAt, Errand.callAt, Errand.resolve, Errand.judge,
          Errand.operation, secsFor, StatementKind.reads, selectTemplate, selectUniqueTemplate,
          selectUniqueNonEmptyTemplate, executeTemplate, executeOneTemplate, built, hb, hselect,
          hexecute]

theorem trace_perform (hc : (h.context id).handle.conn? = some c) (e : Errand) :
    (s.perform id e).trace h = (s.runOn c deadline e).trace h := by
  have ht : Target.ofHandle (h.context id).handle = .conn c := by simp [Target.ofHandle, hc]
  rw [trace_perform_at hd, ht]
  rfl

end

/-! ### Contexts do not matter -/

theorem aloof_runAt (target : Target) (e : Errand) : (s.runAt deadline target e).Aloof :=
  .bind (.ofExcept _) fun _ => .bind (.budget _ _) fun _ => .bind (.callWithin _ _ _ _) fun _ =>
    .ofExcept _

theorem aloof_runOn (e : Errand) : (s.runOn c deadline e).Aloof :=
  s.aloof_runAt deadline (.conn c) e

theorem aloof_runAllOn : ∀ l : List Errand, (s.runAllOn c deadline l).Aloof
  | [] => .pure ()
  | e :: l => .bind (s.aloof_runOn c deadline e) fun _ => aloof_runAllOn l

theorem aloof_commitOn : (s.commitOn c deadline).Aloof :=
  .bind (.budget _ _) fun _ => .bind (.callWithin _ _ _ _) fun _ => .bind (.call _ _) fun _ =>
    .pure ()

theorem aloof_rollbackOn : (s.rollbackOn c deadline).Aloof := by
  refine .bind (.budget _ _) fun b => .bind (.attempt (.callWithin _ _ _ _)) fun ended => ?_
  cases ended with
  | ok r => exact .bind (.call _ _) fun _ => .pure ()
  | error f => exact .bind (.discard _ _) fun _ => .fail f

theorem aloof_concludeOn : ∀ ended : Settled Unit, (s.concludeOn c deadline ended).Aloof
  | .value () => s.aloof_commitOn c deadline
  | .failure f => by
      refine .bind (.attempt (s.aloof_rollbackOn c deadline)) fun r => ?_
      cases r with
      | ok a => exact .fail f
      | error g => exact .fail _
  | .panic p => .bind (.attempt (s.aloof_rollbackOn c deadline)) fun _ => .panic p

end Service

/-! ### The calls of a flat transaction -/

namespace Outcome

/-- Whether an act ended in a failure or a panic. -/
def isFault : Outcome α → Bool
  | value _ => false
  | failure _ => true
  | panic _ => true
  | hang => false

/-- The outcome of passing on a failure after a rollback. -/
def passingFailure (f : Failure) : Outcome Unit → Outcome Unit
  | value () => failure f
  | failure g => failure (.rollbackFailed f g)
  | panic p => panic p
  | hang => hang

/-- The outcome of passing on a panic after a rollback. -/
def passingPanic (p : Payload) : Outcome Unit → Outcome Unit
  | value () => panic p
  | failure _ => panic p
  | panic q => panic q
  | hang => hang

end Outcome

section
variable (s : Service σ) (c : ConnId) (deadline : Option Instant)

/-- How a statement ends at an instant without a call: its template cannot be built, or its call is not
made. -/
inductive Errand.Unsent (now : Instant) (e : Errand) : Outcome Unit → Prop
  | unresolved {f : Failure} (hf : e.callOn c = .error f) : Unsent now e (.failure f)
  | bounded {call : Call} {o : Outcome Unit} (hc : e.callOn c = .ok call)
      (ho : Service.Unsent deadline (s.secsFor e) e.operation now o) : Unsent now e o

/-- Round trips on `c` from an instant on that are those of the statements reached, in order: all of them,
or those up to the first that is at fault. -/
inductive Reached : Instant → List Errand → List RoundTrip → Outcome Unit → Prop
  | all {now : Instant} : Reached now [] [] (.value ())
  | next {now : Instant} {e : Errand} {later : List Errand} {t : RoundTrip} {l : List RoundTrip}
      {o : Outcome Unit} (ht : e.callOn c = .ok t.call) (hs : t.succeeded = true)
      (hl : Reached t.left later l o) : Reached now (e :: later) (t :: l) o
  | stopped {now : Instant} {e : Errand} {later : List Errand} {t : RoundTrip} {o : Outcome Unit}
      (ht : e.callOn c = .ok t.call) (ho : o.isFault = true) : Reached now (e :: later) [t] o
  | unsent {now : Instant} {e : Errand} {later : List Errand} {o : Outcome Unit}
      (ho : e.Unsent s c deadline now o) : Reached now (e :: later) [] o

/-- Round trips of a commit on `c` at an instant: none if it is not made, a commit that did not succeed,
or a commit that did and the release after it. -/
inductive Committing (now : Instant) : List RoundTrip → Outcome Unit → Prop
  | unsent {o : Outcome Unit} (ho : Service.Unsent deadline s.settings.writeSecs "commit" now o) :
      Committing now [] o
  | refused {t : RoundTrip} {o : Outcome Unit} (ht : t.call = .commit c)
      (hs : t.succeeded = false) (ho : o.isFault = true) : Committing now [t] o
  | released {t r : RoundTrip} (ht : t.call = .commit c) (hs : t.succeeded = true)
      (hr : r.call = .release c) : Committing now [t, r] r.ending.done

/-- Round trips of a rollback on `c` at an instant: a rollback that succeeded and the release after it, or
a discard after a rollback that did not succeed or whose budget is used up.  Nothing is done if the clock
cannot hold the end of the budget. -/
inductive RollingBack (now : Instant) : List RoundTrip → Outcome Unit → Prop
  | late {d : RoundTrip} {f : Failure} (hd : d.call = .discard c)
      (hf : Service.Unsent deadline s.settings.writeSecs "rollback" now (.failure f)) :
      RollingBack now [d] (.failure f)
  | refused {t d : RoundTrip} {f : Failure} (ht : t.call = .rollback c)
      (hs : t.succeeded = false) (hd : d.call = .discard c) : RollingBack now [t, d] (.failure f)
  | released {t r : RoundTrip} (ht : t.call = .rollback c) (hs : t.succeeded = true)
      (hr : r.call = .release c) : RollingBack now [t, r] r.ending.done
  | clock {p : Payload}
      (hp : Service.Unsent deadline s.settings.writeSecs "rollback" now (.panic p)) :
      RollingBack now [] (.panic p)

/-- The round trips and the outcome of a transaction on `c` after its statements have ended: a commit
if all succeeded, and a rollback else. -/
inductive Concluded (now : Instant) : Settled Unit → List RoundTrip → Outcome Unit → Prop
  | commit {l : List RoundTrip} {o : Outcome Unit} (h : Committing s c deadline now l o) :
      Concluded now (.value ()) l o
  | failure {l : List RoundTrip} {o : Outcome Unit} (f : Failure)
      (h : RollingBack s c deadline now l o) : Concluded now (.failure f) l (o.passingFailure f)
  | panic {l : List RoundTrip} {o : Outcome Unit} (p : Payload)
      (h : RollingBack s c deadline now l o) : Concluded now (.panic p) l (o.passingPanic p)

end

/-- A call that is not made gives no value. -/
theorem Service.Unsent.isFault {deadline : Option Instant} {secs : Nat} {operation : String}
    {now : Instant} {o : Outcome Unit} (ho : Unsent deadline secs operation now o) :
    o.isFault = true := by
  cases ho <;> rfl

section
variable {s : Service σ} {c : ConnId} {deadline : Option Instant} {now : Instant}

theorem Errand.Unsent.isFault {e : Errand} {o : Outcome Unit} (ho : e.Unsent s c deadline now o) :
    o.isFault = true := by
  cases ho with
  | unresolved => rfl
  | bounded _ ho => exact ho.isFault

theorem Reached.ne_hang {l : List Errand} {ts : List RoundTrip} {o : Outcome Unit}
    (hr : Reached s c deadline now l ts o) : o ≠ .hang := by
  induction hr with
  | all => exact nofun
  | next _ _ _ ih => exact ih
  | stopped _ ho => rintro rfl; cases ho
  | unsent ho => rintro rfl; cases ho.isFault

theorem Concluded.of_value {ended : Settled Unit} {tail : List RoundTrip}
    (hc : Concluded s c deadline now ended tail (.value ())) : ended = .value () ∧
      ∃ t r, tail = [t, r] ∧ t.call = .commit c ∧ t.succeeded = true ∧ r.call = .release c := by
  generalize ho : Outcome.value () = o at hc
  cases hc with
  | commit hcommit =>
      subst ho
      refine ⟨rfl, ?_⟩
      generalize ho : Outcome.value () = o at hcommit
      cases hcommit with
      | unsent hu => subst ho; cases hu.isFault
      | refused _ _ hf => subst ho; simp [Outcome.isFault] at hf
      | released ht hs hr => exact ⟨_, _, rfl, ht, hs, hr⟩
  | failure f hroll => rename_i o; cases o <;> simp [Outcome.passingFailure] at ho
  | panic p hroll => rename_i o; cases o <;> simp [Outcome.passingPanic] at ho

end

/-- A server whose rollbacks do not panic. -/
def Server.CalmRollback (server : Server σ) : Prop :=
  ∀ state c p, (server.react state (.rollback c)).1.ending ≠ .panic p

/-- Of a call that cannot panic, no round trip does. -/
theorem Server.Answers.ne_panic {server : Server σ} {h : Host σ} {call : Call} {t : RoundTrip}
    (ha : server.Answers h call t) {p : Payload}
    (hp : (server.react h.server call).1.ending ≠ .panic p) : t.ending ≠ .panic p := by
  rcases ha.ending_eq with e | e
  · rw [e]; exact nofun
  · rw [e]; exact hp

namespace Service

variable (s : Service σ) (c : ConnId) (deadline : Option Instant)

/-- A statement succeeds with its call, is at fault with its call, or is at fault without one. -/
theorem runOn_cases (e : Errand) (h : Host σ) :
    (∃ t h', e.callOn c = .ok t.call ∧ t.succeeded = true ∧ h'.now = t.left ∧
      (s.runOn c deadline e).trace h = ⟨.value (), h', [t]⟩) ∨
    (∃ t o h', e.callOn c = .ok t.call ∧ o.isFault = true ∧ h'.now = t.left ∧
      (s.runOn c deadline e).trace h = ⟨o, h', [t]⟩) ∨
    ∃ o, e.Unsent s c deadline h.now o ∧ (s.runOn c deadline e).trace h = ⟨o, h, []⟩ := by
  cases hc : e.callOn c with
  | error f => exact .inr (.inr ⟨_, .unresolved hc, by simp [runOn, hc]⟩)
  | ok call =>
      rcases trace_budget_unsent deadline (s.secsFor e) e.operation h with ⟨hu, hb⟩ | ⟨b, hu, hb⟩
      · exact .inr (.inr ⟨_, .bounded hc hu, by simp [runOn, hc, hb]⟩)
      rcases s.server.trace_callWithin b e.operation call h with ⟨hlate, hw⟩ | ⟨t, state, ha, hw⟩
      · exact .inr (.inr ⟨_, .bounded hc (hu hlate), by simp [runOn, hc, hb, hw]⟩)
      have htc : Except.ok call = (.ok t.call : Except Failure Call) := by rw [ha.call_eq]
      cases he : t.ending with
      | reply r =>
          have hts := RoundTrip.succeeded_of_reply he
          cases hj : e.judge r with
          | ok a =>
              refine .inl ⟨t, h.afterTrip state t, htc, hts, rfl, ?_⟩
              simp [runOn, hc, hb, hw, RoundTrip.outcome, he, Ending.outcome, hj]
          | error f =>
              refine .inr (.inl ⟨t, .failure f, h.afterTrip state t, htc, rfl, rfl, ?_⟩)
              simp [runOn, hc, hb, hw, RoundTrip.outcome, he, Ending.outcome, hj]
      | failure f =>
          refine .inr (.inl ⟨t, .failure f, h.afterTrip state t, htc, rfl, rfl, ?_⟩)
          simp [runOn, hc, hb, hw, RoundTrip.outcome, he, Ending.outcome]
      | panic p =>
          refine .inr (.inl ⟨t, .panic p, h.afterTrip state t, htc, rfl, rfl, ?_⟩)
          simp [runOn, hc, hb, hw, RoundTrip.outcome, he, Ending.outcome]
      | never =>
          refine .inr (.inl ⟨t, .failure (.timeout e.operation b.secs), h.afterTrip state t, htc,
            rfl, rfl, ?_⟩)
          simp [runOn, hc, hb, hw, RoundTrip.outcome, he]

/-- The calls of statements on a connection are those of the statements reached. -/
theorem runAllOn_reached : ∀ (l : List Errand) (h : Host σ),
    Reached s c deadline h.now l ((s.runAllOn c deadline l).trace h).trips
      ((s.runAllOn c deadline l).trace h).outcome ∧
    ((s.runAllOn c deadline l).trace h).host.now =
      RoundTrip.lastLeft h.now ((s.runAllOn c deadline l).trace h).trips
  | [], h => ⟨.all, rfl⟩
  | e :: l, h => by
      rcases s.runOn_cases c deadline e h with
        ⟨t, h', hc, ht, hnow, hr⟩ | ⟨t, o, h', hc, ho, hnow, hr⟩ | ⟨o, ho, hr⟩
      · obtain ⟨hreach, hover⟩ := runAllOn_reached l h'
        rw [hnow] at hreach hover
        simp only [runAllOn, Act.trace_bind, hr, Trace.andThen_value]
        exact ⟨.next hc ht hreach, hover⟩
      · have hstop : (s.runAllOn c deadline (e :: l)).trace h = ⟨o, h', [t]⟩ := by
          cases o <;> simp_all [runAllOn, Outcome.isFault]
        rw [hstop]
        exact ⟨.stopped hc ho, hnow⟩
      · have hfault := ho.isFault
        have hstop : (s.runAllOn c deadline (e :: l)).trace h = ⟨o, h, []⟩ := by
          cases o <;> simp_all [runAllOn, Outcome.isFault]
        rw [hstop]
        exact ⟨.unsent ho, rfl⟩

theorem commitOn_committing (h : Host σ) :
    Committing s c deadline h.now ((s.commitOn c deadline).trace h).trips
      ((s.commitOn c deadline).trace h).outcome := by
  rcases trace_budget_unsent deadline s.settings.writeSecs "commit" h with ⟨hu, hb⟩ | ⟨b, hu, hb⟩
  · simp only [commitOn, Act.trace_bind, hb, Trace.andThen_panic]
    exact .unsent hu
  rcases s.server.trace_callWithin b "commit" (.commit c) h with ⟨hlate, hw⟩ | ⟨t, state, ha, hw⟩
  · simp only [commitOn, Act.trace_bind, hb, hw, Trace.andThen_value, Trace.andThen_failure]
    exact .unsent (hu hlate)
  obtain ⟨r, state', hr, hcall⟩ := s.server.trace_call (.release c) (h.afterTrip state t)
  cases he : t.ending with
  | reply _ =>
      have hts := RoundTrip.succeeded_of_reply he
      have e : (s.commitOn c deadline).trace h =
          ⟨r.ending.done, (h.afterTrip state t).afterTrip state' r, [t, r]⟩ := by
        cases hre : r.ending <;>
          simp [commitOn, hb, hw, RoundTrip.outcome, he, Ending.outcome, hcall, hre, Ending.done]
      rw [e]
      exact .released ha.call_eq hts hr.call_eq
  | _ =>
      have hts : t.succeeded = false := by simp [RoundTrip.succeeded, he]
      simp only [commitOn, Act.trace_bind, hb, hw, RoundTrip.outcome, he, Ending.outcome,
        Trace.andThen_value, Trace.andThen_failure, Trace.andThen_panic, Trace.trips_after,
        Trace.outcome_after, List.nil_append]
      exact .refused ha.call_eq hts rfl

/-- A rollback on a connection does what it should, unless its call panics. -/
theorem rollbackOn_cases (h : Host σ) :
    RollingBack s c deadline h.now ((s.rollbackOn c deadline).trace h).trips
      ((s.rollbackOn c deadline).trace h).outcome ∨
    ∃ t ∈ ((s.rollbackOn c deadline).trace h).trips, s.server.Answers h (.rollback c) t ∧
      ∃ p, t.ending = .panic p ∧ ((s.rollbackOn c deadline).trace h).outcome = .panic p := by
  rcases trace_budget_unsent deadline s.settings.writeSecs "rollback" h with ⟨hu, hb⟩ | ⟨b, hu, hb⟩
  · simp only [rollbackOn, Act.trace_bind, hb, Trace.andThen_panic]
    exact .inl (.clock hu)
  rcases s.server.trace_callWithin b "rollback" (.rollback c) h with ⟨hlate, hw⟩ | ⟨t, state, ha, hw⟩
  · obtain ⟨d, state', hd, hdiscard⟩ := s.server.trace_discard c h
    simp only [rollbackOn, Act.trace_bind, Act.trace_attempt, hb, hw, Trace.withOutcome_mk,
      Outcome.attempted, Trace.andThen_value, hdiscard, Act.trace_fail, Trace.after_nil,
      Trace.after_mk, List.append_nil]
    exact .inl (.late hd (hu hlate))
  obtain ⟨r, state', hr, hcall⟩ := s.server.trace_call (.release c) (h.afterTrip state t)
  obtain ⟨d, state'', hd, hdiscard⟩ := s.server.trace_discard c (h.afterTrip state t)
  cases he : t.ending with
  | panic p =>
      refine .inr ⟨t, ?_, ha, p, he, ?_⟩ <;>
        simp [rollbackOn, hb, hw, RoundTrip.outcome, he, Ending.outcome, Outcome.attempted]
  | reply _ =>
      have hts := RoundTrip.succeeded_of_reply he
      have e : (s.rollbackOn c deadline).trace h =
          ⟨r.ending.done, (h.afterTrip state t).afterTrip state' r, [t, r]⟩ := by
        cases hre : r.ending <;>
          simp [rollbackOn, hb, hw, RoundTrip.outcome, he, Ending.outcome, Outcome.attempted, hcall,
            hre, Ending.done]
      rw [e]
      exact .inl (.released ha.call_eq hts hr.call_eq)
  | _ =>
      have hts : t.succeeded = false := by simp [RoundTrip.succeeded, he]
      simp only [rollbackOn, Act.trace_bind, Act.trace_attempt, hb, hw, RoundTrip.outcome, he,
        Ending.outcome, Trace.withOutcome_mk, Outcome.attempted, Trace.andThen_value, hdiscard,
        Act.trace_fail, Trace.after_nil, Trace.after_mk, List.append_nil]
      exact .inl (.refused ha.call_eq hts hd)

theorem rollbackOn_rollingBack (hs : s.server.CalmRollback) (h : Host σ) :
    RollingBack s c deadline h.now ((s.rollbackOn c deadline).trace h).trips
      ((s.rollbackOn c deadline).trace h).outcome :=
  (s.rollbackOn_cases c deadline h).resolve_right
    fun ⟨_, _, ha, p, hp, _⟩ => ha.ne_panic (hs _ _ p) hp

theorem trace_concludeOn_failure (f : Failure) (h : Host σ) :
    (s.concludeOn c deadline (.failure f)).trace h =
      ((s.rollbackOn c deadline).trace h).withOutcome (Outcome.passingFailure f) := by
  simp only [concludeOn, Act.trace_bind, Act.trace_attempt]
  rcases (s.rollbackOn c deadline).trace h with ⟨o, h', l⟩
  cases o <;> simp [Outcome.attempted, Outcome.passingFailure]

theorem trace_concludeOn_panic (p : Payload) (h : Host σ) :
    (s.concludeOn c deadline (.panic p)).trace h =
      ((s.rollbackOn c deadline).trace h).withOutcome (Outcome.passingPanic p) := by
  simp only [concludeOn, Act.trace_bind, Act.trace_attempt]
  rcases (s.rollbackOn c deadline).trace h with ⟨o, h', l⟩
  cases o <;> simp [Outcome.attempted, Outcome.passingPanic]

/-- A transaction ends with a commit or with a rollback, never with both. -/
theorem concludeOn_concluded (hs : s.server.CalmRollback) (h : Host σ) :
    ∀ ended : Settled Unit, Concluded s c deadline h.now ended
      ((s.concludeOn c deadline ended).trace h).trips
      ((s.concludeOn c deadline ended).trace h).outcome
  | .value () => .commit (s.commitOn_committing c deadline h)
  | .failure f => by
      rw [s.trace_concludeOn_failure c deadline f h]
      exact .failure f (s.rollbackOn_rollingBack c deadline hs h)
  | .panic p => by
      rw [s.trace_concludeOn_panic c deadline p h]
      exact .panic p (s.rollbackOn_rollingBack c deadline hs h)

end Service

end SqlSession
