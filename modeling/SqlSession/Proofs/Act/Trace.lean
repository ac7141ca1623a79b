import SqlSession.Service.Basic

/-! # The trace of an act

A server and the holder of a context see of an act how it ended, which host it left behind, and which
round trips it made; logs and samples are for others.  `Act.trace` is that part of a run.  Traces chain
like acts do (`trace_bind`), and an observed act has the trace of the act itself (`trace_observe`), so
that an operation of the service can be worked out call by call.
-/

namespace SqlSession

/-- What is seen of an act without its log and its samples. -/
structure Trace (σ α : Type) where
  outcome : Outcome α
  host : Host σ
  trips : List RoundTrip

/-- The round trips of a run. -/
def Run.trips (r : Run σ α) : List RoundTrip := r.journal.filterMap Entry.trip?

/-- The trace that an act leaves. -/
def Act.trace (x : Act σ α) (h : Host σ) : Trace σ α :=
  ⟨(x h).outcome, (x h).host, (x h).trips⟩

/-- The parts of a run that its trace shows. -/
theorem Act.run_of_trace {x : Act σ α} {h h' : Host σ} {o : Outcome α} {l : List RoundTrip}
    (e : x.trace h = ⟨o, h', l⟩) : (x h).outcome = o ∧ (x h).host = h' ∧ (x h).trips = l :=
  ⟨congrArg Trace.outcome e, congrArg Trace.host e, congrArg Trace.trips e⟩

namespace Outcome

/-- The outcome of an act whose end is passed on as a value, unless there is none. -/
def settled : Outcome α → Outcome (Settled α)
  | value a => value (.value a)
  | failure f => value (.failure f)
  | panic p => value (.panic p)
  | hang => hang

/-- The outcome of an act whose failure is passed on as a value. -/
def attempted : Outcome α → Outcome (Except Failure α)
  | value a => value (.ok a)
  | failure f => value (.error f)
  | panic p => panic p
  | hang => hang

end Outcome

/-- The outcome that an end stands for. -/
def Settled.outcome : Settled α → Outcome α
  | value a => .value a
  | failure f => .failure f
  | panic p => .panic p

@[simp] theorem Settled.settled_outcome (ended : Settled α) : ended.outcome.settled = .value ended := by
  cases ended <;> rfl

/-- An act that ends has ended in some way. -/
theorem Outcome.exists_settled : ∀ {o : Outcome α}, o ≠ .hang → ∃ ended : Settled α, o = ended.outcome
  | value a, _ => ⟨.value a, rfl⟩
  | failure f, _ => ⟨.failure f, rfl⟩
  | panic p, _ => ⟨.panic p, rfl⟩
  | hang, h => absurd rfl h

namespace Trace

/-- A trace with round trips before its own. -/
def after (t : Trace σ α) (l : List RoundTrip) : Trace σ α := { t with trips := l ++ t.trips }

/-- A trace followed by that of the next act, if there is a value to go on with. -/
def andThen (t : Trace σ α) (k : α → Host σ → Trace σ β) : Trace σ β :=
  match t.outcome with
  | .value a => (k a t.host).after t.trips
  | .failure f => ⟨.failure f, t.host, t.trips⟩
  | .panic p => ⟨.panic p, t.host, t.trips⟩
  | .hang => ⟨.hang, t.host, t.trips⟩

/-- A trace with its outcome changed. -/
def withOutcome (t : Trace σ α) (f : Outcome α → Outcome β) : Trace σ β :=
  ⟨f t.outcome, t.host, t.trips⟩

variable (h : Host σ) (l : List RoundTrip) (k : α → Host σ → Trace σ β)

@[simp] theorem withOutcome_mk (o : Outcome α) (f : Outcome α → Outcome β) :
    withOutcome ⟨o, h, l⟩ f = ⟨f o, h, l⟩ := rfl

@[simp] theorem after_nil (t : Trace σ α) : t.after [] = t := rfl

@[simp] theorem after_mk (o : Outcome α) (m : List RoundTrip) :
    after ⟨o, h, m⟩ l = ⟨o, h, l ++ m⟩ := rfl

@[simp] theorem after_after (t : Trace σ α) (m : List RoundTrip) :
    (t.after m).after l = t.after (l ++ m) := by
  simp only [after, List.append_assoc]

@[simp] theorem outcome_after (t : Trace σ α) : (t.after l).outcome = t.outcome := rfl

@[simp] theorem host_after (t : Trace σ α) : (t.after l).host = t.host := rfl

@[simp] theorem trips_after (t : Trace σ α) : (t.after l).trips = l ++ t.trips := rfl

@[simp] theorem withOutcome_after (t : Trace σ α) (f : Outcome α → Outcome β) :
    (t.after l).withOutcome f = (t.withOutcome f).after l := rfl

@[simp] theorem andThen_after (t : Trace σ α) : (t.after l).andThen k = (t.andThen k).after l := by
  obtain ⟨o, h, m⟩ := t
  cases o <;> simp [after, andThen]

@[simp] theorem andThen_value (a : α) : andThen ⟨.value a, h, l⟩ k = (k a h).after l := rfl

@[simp] theorem andThen_failure (f : Failure) :
    andThen ⟨.failure f, h, l⟩ k = ⟨.failure f, h, l⟩ := rfl

@[simp] theorem andThen_panic (p : Payload) : andThen ⟨.panic p, h, l⟩ k = ⟨.panic p, h, l⟩ := rfl

@[simp] theorem andThen_hang : andThen ⟨.hang, h, l⟩ k = ⟨.hang, h, l⟩ := rfl

@[simp] theorem andThen_assoc (t : Trace σ α) (k : α → Host σ → Trace σ β)
    (m : β → Host σ → Trace σ γ) :
    (t.andThen k).andThen m = t.andThen fun a h => (k a h).andThen m := by
  obtain ⟨o, h, l⟩ := t
  cases o <;> simp

@[simp] theorem andThen_pure (t : Trace σ α) :
    (t.andThen fun a h => ⟨.value a, h, []⟩) = t := by
  obtain ⟨o, h, l⟩ := t
  cases o <;> simp

end Trace

namespace Act

@[simp] theorem trace_pure (a : α) : (pure a : Act σ α).trace = fun h => ⟨.value a, h, []⟩ := rfl

@[simp] theorem trace_bind (x : Act σ α) (k : α → Act σ β) :
    (x >>= k).trace = fun h => (x.trace h).andThen fun a => (k a).trace := by
  funext h
  simp only [trace, Trace.andThen, Run.trips, bind, Act.bind]
  cases (x h).outcome <;> simp

@[simp] theorem trace_fail (f : Failure) :
    (fail f : Act σ α).trace = fun h => ⟨.failure f, h, []⟩ := rfl

@[simp] theorem trace_panic (p : Payload) :
    (panic p : Act σ α).trace = fun h => ⟨.panic p, h, []⟩ := rfl

@[simp] theorem trace_ofExcept_ok (a : α) :
    (ofExcept (.ok a) : Act σ α).trace = fun h => ⟨.value a, h, []⟩ := rfl

@[simp] theorem trace_ofExcept_error (f : Failure) :
    (ofExcept (.error f) : Act σ α).trace = fun h => ⟨.failure f, h, []⟩ := rfl

@[simp] theorem trace_ofExcept_map (e : Except Failure α) (f : α → β) :
    (ofExcept (e.map f)).trace = fun h : Host σ => ((ofExcept e).trace h).andThen fun a h =>
      ⟨.value (f a), h, []⟩ := by
  cases e <;> rfl

@[simp] theorem trace_ofExcept_bind (e : Except Failure α) (f : α → Except Failure β) :
    (ofExcept (e.bind f)).trace = fun h : Host σ => ((ofExcept e).trace h).andThen fun a =>
      (ofExcept (f a)).trace := by
  cases e <;> rfl

@[simp] theorem trace_log (e : Event) :
    (log e : Act σ Unit).trace = fun h => ⟨.value (), h, []⟩ := rfl

@[simp] theorem trace_context (id : String) :
    (context id : Act σ Context).trace = fun h => ⟨.value (h.context id), h, []⟩ := rfl

/-- What is done with a context is done with what the host has for it. -/
theorem trace_context_bind (id : String) (k : Context → Act σ α) (h : Host σ) :
    (context id >>= k).trace h = (k (h.context id)).trace h := by
  simp only [trace_bind, trace_context, Trace.andThen_value, Trace.after_nil]

@[simp] theorem trace_settle (x : Act σ α) :
    (settle x).trace = fun h => (x.trace h).withOutcome Outcome.settled := by
  funext h
  simp only [trace, settle, Run.trips]
  cases (x h).outcome <;> rfl

@[simp] theorem trace_attempt (x : Act σ α) :
    (attempt x).trace = fun h => (x.trace h).withOutcome Outcome.attempted := by
  funext h
  simp only [trace, attempt, Run.trips]
  cases (x h).outcome <;> rfl

/-- An act after a value goes on where that one has stopped. -/
theorem bind_of_value {x : Act σ α} {k : α → Act σ β} {h : Host σ} {a : α}
    (ho : (x h).outcome = .value a) : (x >>= k) h = ⟨(k a (x h).host).outcome, (k a (x h).host).host,
      (x h).journal ++ (k a (x h).host).journal⟩ := by
  simp only [bind, Act.bind, ho]

/-- Without a value nothing comes after an act. -/
theorem bind_of_stop {x : Act σ α} {k : α → Act σ β} {h : Host σ}
    (ho : ∀ a, (x h).outcome ≠ .value a) :
    ((x >>= k) h).host = (x h).host ∧ ((x >>= k) h).journal = (x h).journal := by
  simp only [bind, Act.bind]
  cases hv : (x h).outcome with
  | value a => exact absurd hv (ho a)
  | _ => exact ⟨rfl, rfl⟩

theorem host_settle (x : Act σ α) (h : Host σ) : (settle x h).host = (x h).host := by
  simp only [settle]
  cases (x h).outcome <;> rfl

theorem host_attempt (x : Act σ α) (h : Host σ) : (attempt x h).host = (x h).host := by
  simp only [attempt]
  cases (x h).outcome <;> rfl

end Act

/-- Samples are no round trips. -/
@[simp] theorem Service.trace_observe (s : Service σ) (operation : String) (x : Act σ α) :
    (s.observe operation x).trace = x.trace := by
  have hnone : ∀ l : List Sample, (l.map Entry.sample).filterMap Entry.trip? = [] := by
    intro l
    induction l with
    | nil => rfl
    | cons a l ih => simp [Entry.trip?]
  funext h
  simp [Act.trace, Service.observe, Run.trips, List.filterMap_append, hnone]

end SqlSession
