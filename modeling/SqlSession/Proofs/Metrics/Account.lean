import SqlSession.Proofs.Metrics.Samples
import SqlSession.Proofs.Statement.EntryPoints

/-! # The account of a run

A program is whatever the caller of a service does: operations on any contexts, transactions with programs as
their bodies, and what happens outside of the service, each step chosen by how the ones before have ended.
Which operations a run completes is said without regard to its journal (`Program.completed`).  The samples of
the run are those of these operations, each once and in the order of completion
(`samples_account_for_program`); in particular those of a transaction stand between that of its begin and
that of its one commit or rollback (`Bracketed`). -/

namespace SqlSession

open Rehearsal (StatementKind StepValue)

/-! ### Statements -/

namespace Errand

variable (s : Service σ) (id : String) (e : Errand)

/-- The query or the write that a statement comes to, if it comes to one. -/
def main : Act σ QueryResult := do
  let (sql, params) ← Act.ofExcept e.resolve
  if e.kind.reads then s.select id sql false params else s.execute id sql params

/-- What a statement completes.  What is asked of the result does not count. -/
def completed (h : Host σ) : List Completion :=
  match e.resolve with
  | .error _ => []
  | .ok (sql, params) =>
    if e.kind.reads then (s.select id sql false params h).outcome.completion "select"
    else (s.execute id sql params h).outcome.completion "execute"

end Errand

/-- What is asked of a query or a write, by the kind of the statement. -/
def Rehearsal.StatementKind.ask (x : Act σ QueryResult) : StatementKind → Act σ StepValue
  | .select => do return .result (← x)
  | .unique => do return .row (← unique)
  | .nonEmpty => do return .row (some (← unique >>= fun r => Act.ofExcept (Service.someRow r)))
  | .execute => do return .result (← x)
  | .executeOne => do return .result (← x >>= fun r => Act.ofExcept (Service.oneAffected r))
where
  unique : Act σ (Option Row) := x >>= fun r => Act.ofExcept r.unique

namespace Service

open Act (Silent samples_bind_silent)

variable {s : Service σ} {id : String}

theorem statementAct_eq_ask (s : Service σ) (id : String) (e : Errand) :
    Rehearsal.statementAct s id e.kind e.request = e.kind.ask (e.main s id) := by
  obtain ⟨kind, request⟩ := e
  cases request with
  | fault f => cases kind <;> rfl
  | text sql lock params => cases kind <;> cases lock <;> rfl
  | template t => cases kind <;> rfl

theorem samples_ask (x : Act σ QueryResult) (kind : StatementKind) (h : Host σ) :
    Journal.samples (kind.ask x h).journal = Journal.samples (x h).journal := by
  cases kind with
  | select => exact samples_bind_silent x (fun _ => .pure _) h
  | execute => exact samples_bind_silent x (fun _ => .pure _) h
  | unique =>
      refine (samples_bind_silent _ (fun _ => .pure _) h).trans ?_
      exact samples_bind_silent x (fun _ => .ofExcept _) h
  | executeOne =>
      refine (samples_bind_silent _ (fun _ => .pure _) h).trans ?_
      exact samples_bind_silent x (fun _ => .ofExcept _) h
  | nonEmpty =>
      refine (samples_bind_silent _ (fun _ => .pure _) h).trans ?_
      refine (samples_bind_silent _ (fun _ => .ofExcept _) h).trans ?_
      exact samples_bind_silent x (fun _ => .ofExcept _) h

theorem samples_statementAct (hm : s.settings.metered = true) (e : Errand) (h : Host σ) :
    Journal.samples (Rehearsal.statementAct s id e.kind e.request h).journal =
      s.samplesOf (e.completed s id h) := by
  rw [statementAct_eq_ask, samples_ask, Errand.main, Errand.completed]
  cases e.resolve with
  | error f => rfl
  | ok statement =>
      cases hreads : e.kind.reads with
      | true => exact samples_select hm statement.1 false statement.2 h
      | false => exact samples_execute hm statement.1 statement.2 h

end Service

/-! ### Operations -/

namespace Operation

/-- What an operation gives to its caller. -/
def answer (s : Service σ) : Operation → Act σ StepValue
  | statement id e => Rehearsal.statementAct s id e.kind e.request
  | o => do
    o.act s
    return .none

/-- What an operation completes.  The end of a transaction is a commit after a value and else a rollback;
closing, replacing a context and setting a deadline do not count. -/
def completed (s : Service σ) (h : Host σ) : Operation → List Completion
  | connection id => (s.connection id h).outcome.completion "connection"
  | testConnection id => (s.testConnection id h).outcome.completion "ping"
  | begin id => (s.begin id h).outcome.completion "begin"
  | commit id => (s.commit id h).outcome.completion "commit"
  | rollback id => (s.rollback id h).outcome.completion "rollback"
  | conclude id (.value _) => (s.commit id h).outcome.completion "commit"
  | conclude id _ => (s.rollback id h).outcome.completion "rollback"
  | statement id e => e.completed s id h
  | close _ => []
  | replace .. => []
  | setDeadline .. => []

end Operation

namespace Service

open Act (Silent samples_bind_silent)

variable {s : Service σ} {id : String} (hm : s.settings.metered = true)
include hm

theorem samples_conclude (ended : Settled α) (h : Host σ) :
    Journal.samples (s.conclude id ended h).journal =
      s.samplesOf (Operation.completed s h (.conclude id ended.forget)) := by
  have hundo : Journal.samples (Act.attempt (s.rollback id) h).journal =
      s.samplesOf ((s.rollback id h).outcome.completion "rollback") :=
    (Act.samples_attempt _ h).trans (samples_rollback hm h)
  cases ended with
  | value a => exact (samples_bind_silent _ (fun _ => .pure a) h).trans (samples_commit hm h)
  | failure f =>
      refine (samples_bind_silent _ (fun ended => ?_) h).trans hundo
      cases ended <;> exact .fail _
  | panic p =>
      have hlog : (Act.log (.panicInTransaction id) h).outcome = .value () := rfl
      rw [conclude, Act.samples_bind_of_value hlog, Silent.log, List.nil_append]
      refine (samples_bind_silent _ (fun ended => ?_) h).trans hundo
      cases ended with
      | ok _ => exact .panic p
      | error f => exact .bind (.log _) fun _ => .panic p

/-- **Step.**  An operation leaves the samples of what it completes. -/
theorem samples_answer (o : Operation) (h : Host σ) :
    Journal.samples (o.answer s h).journal = s.samplesOf (o.completed s h) := by
  have hact {x : Act σ Unit} : Journal.samples ((do
      x
      return .none : Act σ StepValue) h).journal = Journal.samples (x h).journal :=
    samples_bind_silent x (fun _ => .pure _) h
  cases o with
  | statement id e => exact samples_statementAct hm e h
  | connection id => exact hact.trans (samples_connection hm h)
  | testConnection id => exact hact.trans (samples_testConnection hm h)
  | close id => exact hact.trans (silent_close h)
  | begin id => exact hact.trans (samples_begin hm h)
  | commit id => exact hact.trans (samples_commit hm h)
  | rollback id => exact hact.trans (samples_rollback hm h)
  | conclude id ended =>
      refine hact.trans ((samples_conclude hm ended h).trans ?_)
      cases ended <;> rfl
  | replace id deadline => exact hact.trans (silent_replaceContext _ h)
  | setDeadline id deadline =>
      exact hact.trans (Silent.bind (.context id) (fun _ => .store _) h)

end Service

/-! ### Programs -/

/-- What the caller of a service does: it ends, does an operation or a transaction and goes on by how that has
ended, or waits while something happens outside. -/
inductive Program (σ : Type) : Type → Type 1 where
  | finish {α : Type} (o : Outcome α) : Program σ α
  | operation {α : Type} (o : Operation) (next : Settled StepValue → Program σ α) : Program σ α
  | transaction {α β : Type} (id : String) (body : Program σ β) (next : Settled β → Program σ α) :
      Program σ α
  | outside {α : Type} (change : Host σ → Host σ) (next : Program σ α) : Program σ α

/-- What a transaction completes: its begin, and if that succeeds, what the body completes and then the commit
or the rollback that its end calls for. -/
def Service.completedAround (s : Service σ) (id : String) (body : Act σ α)
    (inside : Host σ → List Completion) (h : Host σ) : List Completion :=
  (s.begin id h).outcome.completion "begin" ++
    match (s.begin id h).outcome with
    | .value () => inside (s.begin id h).host ++ (body (s.begin id h).host).thenCome fun ended h =>
        Operation.completed s h (.conclude id ended.forget)
    | _ => []

namespace Program

/-- Runs a program. -/
def act (s : Service σ) : Program σ α → Act σ α
  | finish o => fun h => ⟨o, h, []⟩
  | operation o next => do
    let ended ← Act.settle (o.answer s)
    (next ended).act s
  | transaction id body next => do
    let ended ← Act.settle (s.withTransaction id (body.act s))
    (next ended).act s
  | outside change next => do
    Act.modify change
    next.act s

/-- The operations that a program completes, in order. -/
def completed (s : Service σ) : Program σ α → Host σ → List Completion
  | finish _, _ => []
  | operation o next, h =>
    o.completed s h ++ (o.answer s h).thenCome fun ended h => (next ended).completed s h
  | transaction id body next, h =>
    s.completedAround id (body.act s) (body.completed s) h ++
      (s.withTransaction id (body.act s) h).thenCome fun ended h => (next ended).completed s h
  | outside change next, h => next.completed s (change h)

end Program

namespace Service

/-- How the samples of a transaction stand around those of its body: a begin that fails is all there is, and
else there is one sample of the begin before them, and after them that of the commit if the body has given a
value, or that of the rollback if it has not. -/
structure Bracketed (s : Service σ) (id : String) (body : Act σ α) (h : Host σ) : Prop where
  refused : ∀ f, (s.begin id h).outcome = .failure f →
    Journal.samples (s.withTransaction id body h).journal = s.samplesOf [⟨"begin", .error f⟩]
  committed : ∀ a, (s.begin id h).outcome = .value () →
    (body (s.begin id h).host).outcome = .value a →
    Journal.samples (s.withTransaction id body h).journal =
      s.samplesOf [⟨"begin", .ok ()⟩] ++ Journal.samples (body (s.begin id h).host).journal ++
        s.samplesOf ((s.commit id (body (s.begin id h).host).host).outcome.completion "commit")
  rolledBack : ∀ ended, (∀ a, ended ≠ .value a) → (s.begin id h).outcome = .value () →
    (body (s.begin id h).host).outcome = Settled.outcome ended →
    Journal.samples (s.withTransaction id body h).journal =
      s.samplesOf [⟨"begin", .ok ()⟩] ++ Journal.samples (body (s.begin id h).host).journal ++
        s.samplesOf ((s.rollback id (body (s.begin id h).host).host).outcome.completion "rollback")

variable {s : Service σ} (hm : s.settings.metered = true)
include hm

theorem samples_withTransaction_of_stop {id : String} {h : Host σ}
    (hb : ∀ a, (s.begin id h).outcome ≠ .value a) (body : Act σ α) :
    Journal.samples (s.withTransaction id body h).journal =
      s.samplesOf ((s.begin id h).outcome.completion "begin") := by
  rw [withTransaction, Act.samples_bind_of_stop hb, samples_begin hm]

theorem samples_withTransaction_of_begun {id : String} {h : Host σ}
    (hb : (s.begin id h).outcome = .value ()) (body : Act σ α) :
    Journal.samples (s.withTransaction id body h).journal =
      s.samplesOf [⟨"begin", .ok ()⟩] ++ Journal.samples (body (s.begin id h).host).journal ++
        (body (s.begin id h).host).thenCome fun ended h =>
          s.samplesOf (Operation.completed s h (.conclude id ended.forget)) := by
  have hbegin : Journal.samples (s.begin id h).journal = s.samplesOf [⟨"begin", .ok ()⟩] := by
    rw [samples_begin hm, hb]
    rfl
  rw [withTransaction, Act.samples_bind_of_value hb, hbegin, Act.samples_settle_bind,
    List.append_assoc]
  simp only [samples_conclude hm]

/-- The samples of a transaction are those of what it completes, if those of its body are. -/
theorem samples_withTransaction {id : String} {body : Act σ α} {inside : Host σ → List Completion}
    (hbody : ∀ h, Journal.samples (body h).journal = s.samplesOf (inside h)) (h : Host σ) :
    Journal.samples (s.withTransaction id body h).journal =
      s.samplesOf (s.completedAround id body inside h) := by
  by_cases hb : (s.begin id h).outcome = .value ()
  · rw [samples_withTransaction_of_begun hm hb, hbody]
    simp only [completedAround, hb, samplesOf, List.map_append, Run.map_thenCome, List.append_assoc,
      Outcome.completion]
  · rw [samples_withTransaction_of_stop hm (fun _ => hb), completedAround]
    cases ho : (s.begin id h).outcome with
    | value _ => exact absurd ho hb
    | _ => simp only [List.append_nil]

theorem bracketed (id : String) (body : Act σ α) (h : Host σ) : Bracketed s id body h where
  refused f hf := by
    rw [samples_withTransaction_of_stop hm (fun a ha => nomatch hf.symm.trans ha), hf]
    rfl
  committed a hb ha := by
    have hended : (body (s.begin id h).host).outcome = Settled.outcome (.value a) := ha
    rw [samples_withTransaction_of_begun hm hb, Run.thenCome_of_ended hended]
    rfl
  rolledBack ended hne hb he := by
    rw [samples_withTransaction_of_begun hm hb, Run.thenCome_of_ended he]
    cases ended with
    | value a => exact absurd rfl (hne a)
    | _ => rfl

/-- **Run.**  A program leaves the samples of what it completes. -/
theorem samples_program (p : Program σ α) :
    ∀ h, Journal.samples (p.act s h).journal = s.samplesOf (p.completed s h) := by
  induction p with
  | finish o => exact fun _ => rfl
  | operation o next ih =>
      intro h
      simp only [Program.act, Program.completed, samplesOf, List.map_append, Run.map_thenCome,
        Act.samples_settle_bind, samples_answer hm, ih]
  | transaction id body next ihbody ih =>
      intro h
      simp only [Program.act, Program.completed, samplesOf, List.map_append, Run.map_thenCome,
        Act.samples_settle_bind, samples_withTransaction hm ihbody, ih]
  | outside change next ih => exact fun h => ih (change h)

/-- **The samples account for the run.**  Whatever the server does, the samples of a program are those of the
operations that it completes, and no others: one each, in the order of completion, under the name of the
operation, and an error if and only if the operation has returned one, with the code of that failure.  And
whatever the body of a transaction does, its samples stand between that of the begin and that of the one
commit or rollback. -/
theorem samples_account_for_program (p : Program σ α) (h : Host σ) :
    Journal.samples (p.act s h).journal = s.samplesOf (p.completed s h) ∧
    ∀ {β : Type} (id : String) (body : Act σ β) (h : Host σ), Bracketed s id body h :=
  ⟨samples_program hm p h, fun id body h => bracketed hm id body h⟩

end Service

/-- A transaction that goes on after one inside of it.  That one removes nothing, asks for a row all the same,
and is rolled back; then there is a statement without its parameters, and nothing left to commit. -/
def Program.collapsed : Program Unit Unit :=
  let removal : Errand := ⟨.executeOne, .text "DELETE FROM t" false []⟩
  let lookup : Errand := ⟨.nonEmpty, .text "SELECT 1" false []⟩
  let unbound : Errand := ⟨.select, .template ⟨.plain, "SELECT * FROM t WHERE k = ?", [], false⟩⟩
  .transaction "a"
    (.transaction "a"
      (.operation (.statement "a" removal) fun _ =>
        .operation (.statement "a" lookup) fun ended => .finish ended.outcome)
      fun _ => .operation (.statement "a" unbound) fun _ => .finish (.value ()))
    fun ended => .finish ended.outcome

namespace Service

/-- A server that does everything but queries, with a metrics sink. -/
def queryless : Service Unit :=
  { Service.plain fun
      | .fetch .. => .failure (.database "no such table: t" (some "1") "")
      | _ => .reply .done with
    settings.metered := true }

/-- A removal of no row has been a success before its result was refused. -/
theorem samples_account_for_program_collapsed :
    queryless.settings.metered = true ∧
    Journal.samples (Program.collapsed.act queryless (.fresh () 0)).journal =
      [⟨"db.begin", true, none⟩, ⟨"db.begin", true, none⟩, ⟨"db.execute", true, none⟩,
        ⟨"db.select", false, some "1"⟩, ⟨"db.rollback", true, none⟩, ⟨"db.commit", false, none⟩] := by
  have hm : queryless.settings.metered = true := rfl
  refine ⟨hm, (samples_account_for_program hm Program.collapsed (.fresh () 0)).1.trans ?_⟩
  decide +kernel

end Service

end SqlSession
