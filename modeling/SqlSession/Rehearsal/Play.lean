import SqlSession.Rehearsal.Step

/-! # Playing a rehearsal

The steps are played one after the other; each gives an answer, and so does each step inside a
transaction.  A step that never ends stops the play.
-/

namespace SqlSession.Rehearsal

/-- The state of a play. -/
structure Play where
  host : Host Script
  /-- Journal since the last answer. -/
  journal : List Entry
  /-- Connections given back so far. -/
  returned : Nat
  /-- Contexts by name. -/
  names : List String

/-- Connections that a journal gives back: released, closed or discarded. -/
def returnedIn (journal : List Entry) : Nat :=
  (journal.filterMap Entry.call?).countP fun c => match c with
    | .release _ => true
    | .close _ => true
    | .discard _ => true
    | _ => false

namespace Play

/-- A play before its first step. -/
def start (script : Script) : Play := ⟨⟨script, 0, 0, []⟩, [], 0, []⟩

/-- A play in which a context of a name exists. -/
def ensure (p : Play) (name : String) : Play :=
  if name ∈ p.names then p else { p with names := p.names ++ [name] }

/-- Does an act in a play. -/
def run (p : Play) (x : Act Script α) : Outcome α × Play :=
  let done := x p.host
  (done.outcome, { p with
    host := done.host
    journal := p.journal ++ done.journal
    returned := p.returned + returnedIn done.journal })

/-- The answer at this point of a play, and the play after it. -/
def answer (p : Play) (reading : Reading) (inner : Option (List Answer)) : Answer × Play :=
  (.mk reading p.journal (p.names.map fun n => (n, p.host.context (idOf n)))
    ((p.host.handedOut : Int) - p.returned) p.host.now inner, { p with journal := [] })

end Play

/-- What came of playing a step: its answer and how it ended, or nothing more. -/
inductive Progress where
  | answered (a : Answer) (ended : Settled StepValue) (p : Play)
  | stuck (p : Play)

/-- What came of playing the steps of a transaction. -/
inductive BodyProgress where
  | ended (answers : List Answer) (s : Settled Unit) (p : Play)
  | stuck (p : Play)

/-- The progress after an act. -/
def progressOf (played : Outcome StepValue × Play) (inner : Option (List Answer)) : Progress :=
  let settled (s : Settled StepValue) : Progress :=
    let (a, p) := played.2.answer (.settled s) inner
    .answered a s p
  match played.1 with
  | .value v => settled (.value v)
  | .failure f => settled (.failure f)
  | .panic x => settled (.panic x)
  | .hang => .stuck played.2

/-- The act of a statement step. -/
def statementAct (s : Service σ) (id : String) : StatementKind → Request → Act σ StepValue
  | _, .fault f => Act.fail f.toFailure
  | .select, .text sql lock ps => return .result (← s.select id sql lock ps)
  | .unique, .text sql lock ps => return .row (← s.selectUnique id sql lock ps)
  | .nonEmpty, .text sql lock ps => return .row (some (← s.selectUniqueNonEmpty id sql lock ps))
  | .execute, .text sql _ ps => return .result (← s.execute id sql ps)
  | .executeOne, .text sql _ ps => return .result (← s.executeOne id sql ps)
  | .select, .template t => return .result (← s.selectTemplate id t)
  | .unique, .template t => return .row (← s.selectUniqueTemplate id t)
  | .nonEmpty, .template t => return .row (some (← s.selectUniqueNonEmptyTemplate id t))
  | .execute, .template t => return .result (← s.executeTemplate id t)
  | .executeOne, .template t => return .result (← s.executeOneTemplate id t)

/-- The act of a step other than a transaction, which has none. -/
def stepAct (s : Service Script) : Step → Act Script StepValue
  | .context name offset => do
    let now ← Act.read Host.now
    s.replaceContext { Context.detached (idOf name) with deadline := offset.map (now + ·) }
    return .none
  | .connection name => do
    s.connection (idOf name)
    return .none
  | .deadline name offset => do
    let now ← Act.read Host.now
    let ctx ← Act.context (idOf name)
    Act.store { ctx with deadline := offset.map (now + ·) }
    return .none
  | .sleep ms => do
    Act.modify fun h => { h with now := h.now + ms }
    return .none
  | .script queues => do
    Act.modify fun h => { h with server := h.server.setAll queues }
    return .none
  | .fail f => Act.fail f
  | .panic p => Act.panic p
  | .debug name => return .text (← Act.context (idOf name)).debug
  | .debugService => return .text s.settings.debug
  | .handedOut => return .count (← Act.read Host.handedOut)
  | .test name => do
    s.testConnection (idOf name)
    return .none
  | .close name => do
    s.close (idOf name)
    return .none
  | .begin name => do
    s.begin (idOf name)
    return .none
  | .commit name => do
    s.commit (idOf name)
    return .none
  | .rollback name => do
    s.rollback (idOf name)
    return .none
  | .statement name kind request => statementAct s (idOf name) kind request
  | .transaction .. => return .none
  | .unknown _ kind => Act.fail (.internal ("unknown step " ++ kind))

/-- The context that exists once a step has been started. -/
def Step.openedBefore? : Step → Option String
  | .debug name => some name
  | .deadline name _ => some name
  | .test name => some name
  | .close name => some name
  | .begin name => some name
  | .commit name => some name
  | .rollback name => some name
  | .statement name _ _ => some name
  | .transaction name _ _ => some name
  | .unknown name _ => some name
  | _ => none

/-- The context that exists once a step has succeeded. -/
def Step.openedAfter? : Step → Option String
  | .context name _ => some name
  | .connection name => some name
  | _ => none

/-- A play in which the context exists, if there is one. -/
def Play.ensure? (p : Play) : Option String → Play
  | some name => p.ensure name
  | none => p

mutual

/-- Plays a step. -/
def playStep (s : Service Script) (p : Play) : Step → Progress
  | .transaction name body value =>
    match (p.ensure name).run (s.begin (idOf name)) with
    | (.value (), begun) =>
      let (entered, inside) := begun.answer .entered none
      match playBody s inside body with
      | .stuck q => .stuck q
      | .ended answers ended q =>
        progressOf (q.run do
          s.conclude (idOf name) ended
          return .json value) (some (entered :: answers))
    | (.failure f, q) => progressOf (.failure f, q) (some [])
    | (.panic x, q) => progressOf (.panic x, q) (some [])
    | (.hang, q) => .stuck q
  | step =>
    let (ended, q) := (p.ensure? step.openedBefore?).run (stepAct s step)
    match ended with
    | .value v => progressOf (.value v, q.ensure? step.openedAfter?) none
    | e => progressOf (e, q) none

/-- Plays the steps of a transaction, up to the first that fails and must not. -/
def playBody (s : Service Script) (p : Play) : List (Bool × Step) → BodyProgress
  | [] => .ended [] (.value ()) p
  | (tolerated, step) :: later =>
    match playStep s p step with
    | .stuck q => .stuck q
    | .answered a ended q =>
      let stop (e : Settled Unit) : BodyProgress := .ended [a] e q
      let proceed : BodyProgress := match playBody s q later with
        | .ended answers e r => .ended (a :: answers) e r
        | .stuck r => .stuck r
      match ended with
      | .value _ => proceed
      | .failure f => if tolerated then proceed else stop (.failure f)
      | .panic x => if tolerated then proceed else stop (.panic x)

end

/-- Plays steps one after the other.  The second part is the journal since the last answer when a step
never ended. -/
def playSteps (s : Service Script) (p : Play) : List Step → List Answer × Option (List Entry)
  | [] => ([], none)
  | step :: later =>
    match playStep s p step with
    | .stuck q => ([], some q.journal)
    | .answered a _ q =>
      let (answers, stuck) := playSteps s q later
      (a :: answers, stuck)

end SqlSession.Rehearsal
