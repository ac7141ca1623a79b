import SqlSession.Proofs.Act.Calls
import SqlSession.Service.Statement

/-! # Statements as texts and as templates

A statement can be given as a text or as a template, and either way five things can be asked of its result.
A template that has a group is run as the text that it comes to: as an act, so that every call, every sample,
every context and every outcome is the same (`RunsAs`).  It does not matter that a template appends its lock
clause when it is rendered and a text when it is run.  What the three stricter operations ask changes a run
in its value alone (`Run.judged`, `Judges`).  All of it is put together in `templates_run_as_texts`. -/

namespace SqlSession

open Statement (Template)

/-- An outcome whose value is judged by a rule.  Whatever is not a value stays as it is. -/
def Outcome.judged (rule : α → Except Failure β) : Outcome α → Outcome β
  | value a => match rule a with
    | .ok b => value b
    | .error f => failure f
  | failure f => failure f
  | panic p => panic p
  | hang => hang

/-- A run whose value is judged by a rule. -/
def Run.judged (r : Run σ α) (rule : α → Except Failure β) : Run σ β :=
  ⟨r.outcome.judged rule, r.host, r.journal⟩

theorem Act.bind_ofExcept (x : Act σ α) (rule : α → Except Failure β) (h : Host σ) :
    (x >>= fun a => Act.ofExcept (rule a)) h = (x h).judged rule := by
  simp only [Bind.bind, Act.bind, Run.judged, Outcome.judged]
  cases (x h).outcome with
  | value a =>
      cases hr : rule a <;> simp [hr, Act.ofExcept, Act.fail, Pure.pure, Act.pure]
  | _ => rfl

theorem Run.judged_judged (r : Run σ α) (rule : α → Except Failure β) (next : β → Except Failure γ) :
    (r.judged rule).judged next = r.judged fun a => (rule a).bind next := by
  obtain ⟨o, h, j⟩ := r
  cases o with
  | value a => cases hr : rule a <;> simp [judged, Outcome.judged, hr, Except.bind]
  | _ => rfl

namespace Service

/-! ### What may be asked of a result -/

/-- At most one row. -/
def atMostOne (r : QueryResult) : Except Failure (Option Row) :=
  match r.rows with
  | [] => .ok none
  | [row] => .ok (some row)
  | rows => .error (.recordCount "at most 1" rows.length)

/-- Exactly one row. -/
def exactlyOne (r : QueryResult) : Except Failure Row :=
  match r.rows with
  | [] => .error .recordNotFound
  | [row] => .ok row
  | rows => .error (.recordCount "at most 1" rows.length)

/-- Exactly one affected row. -/
def oneChanged (r : QueryResult) : Except Failure QueryResult :=
  match r.affected with
  | 1 => .ok r
  | n => .error (.affectedRows 1 n)

theorem unique_eq_atMostOne (r : QueryResult) : r.unique = atMostOne r := by
  obtain ⟨affected, rows⟩ := r
  match rows with
  | [] => rfl
  | [_] => rfl
  | _ :: _ :: _ => simp [QueryResult.unique, atMostOne]

theorem bind_someRow_eq_exactlyOne (r : QueryResult) : (atMostOne r).bind someRow = exactlyOne r := by
  obtain ⟨affected, rows⟩ := r
  match rows with
  | [] => rfl
  | [_] => rfl
  | _ :: _ :: _ => rfl

theorem oneAffected_eq_oneChanged (r : QueryResult) : oneAffected r = oneChanged r := by
  unfold oneAffected oneChanged
  split <;> simp_all

/-- Whether the stricter operations do what `select` and `execute` do, and judge the result. -/
structure Judges (select execute one : Act σ QueryResult) (unique : Act σ (Option Row))
    (nonEmpty : Act σ Row) : Prop where
  unique_eq : ∀ h, unique h = (select h).judged atMostOne
  nonEmpty_eq : ∀ h, nonEmpty h = (select h).judged exactlyOne
  one_eq : ∀ h, one h = (execute h).judged oneChanged

/-- Operations that are made of others by asking more of the result judge it. -/
theorem judges_of_eq {select execute one : Act σ QueryResult} {unique : Act σ (Option Row)}
    {nonEmpty : Act σ Row} (hunique : unique = select >>= fun r => Act.ofExcept r.unique)
    (hnonEmpty : nonEmpty = unique >>= fun r => Act.ofExcept (someRow r))
    (hone : one = execute >>= fun r => Act.ofExcept (oneAffected r)) :
    Judges select execute one unique nonEmpty := by
  have hatMost (h : Host σ) : unique h = (select h).judged atMostOne := by
    rw [hunique, Act.bind_ofExcept]
    exact congrArg _ (funext unique_eq_atMostOne)
  refine ⟨hatMost, fun h => ?_, fun h => ?_⟩
  · rw [hnonEmpty, Act.bind_ofExcept, hatMost, Run.judged_judged]
    exact congrArg _ (funext bind_someRow_eq_exactlyOne)
  · rw [hone, Act.bind_ofExcept]
    exact congrArg _ (funext oneAffected_eq_oneChanged)

/-! ### Templates with a group -/

variable (s : Service σ) (id : String) (t : Template)

/-- Whether a template is run as a text: a query with the template's own mark for the lock clause, and a write
as the template is rendered. -/
structure RunsAs (bare rendered : String) : Prop where
  select : s.selectTemplate id t = s.select id bare t.forUpdate t.params
  unique : s.selectUniqueTemplate id t = s.selectUnique id bare t.forUpdate t.params
  nonEmpty : s.selectUniqueNonEmptyTemplate id t = s.selectUniqueNonEmpty id bare t.forUpdate t.params
  execute : s.executeTemplate id t = s.execute id rendered t.params
  executeOne : s.executeOneTemplate id t = s.executeOne id rendered t.params

variable {s id t}

theorem build_of_groups (hg : t.groupCount ≠ 0) :
    t.build = .ok (if t.forUpdate then Statement.locked t.composed else t.composed, t.params) := by
  rw [Template.build, Template.statement, if_neg hg]
  rfl

theorem built_of_build {sql : String} {params : List Param} (hb : t.build = .ok (sql, params))
    (k : String × List Param → Act σ α) : (built t >>= k) = k (sql, params) := by
  rw [built, hb]
  rfl

/-- The lock clause is in the text before the statement is run, or is put there then. -/
theorem select_locked (sql : String) (lock : Bool) (params : List Param) :
    s.select id (if lock then Statement.locked sql else sql) false params = s.select id sql lock params := by
  cases lock <;> rfl

theorem runsAs_of_groups (hg : t.groupCount ≠ 0) : RunsAs s id t t.composed
    (if t.forUpdate then Statement.locked t.composed else t.composed) := by
  have hselect : s.selectTemplate id t = s.select id t.composed t.forUpdate t.params := by
    rw [selectTemplate, built_of_build (build_of_groups hg)]
    exact select_locked t.composed t.forUpdate t.params
  have hexecute : s.executeTemplate id t =
      s.execute id (if t.forUpdate then Statement.locked t.composed else t.composed) t.params := by
    rw [executeTemplate, built_of_build (build_of_groups hg)]
  have hunique : s.selectUniqueTemplate id t = s.selectUnique id t.composed t.forUpdate t.params := by
    rw [selectUniqueTemplate, selectUnique, hselect]
  refine ⟨hselect, hunique, ?_, hexecute, ?_⟩
  · rw [selectUniqueNonEmptyTemplate, selectUniqueNonEmpty, hunique]
  · rw [executeOneTemplate, executeOne, hexecute]

/-! ### Templates without a group -/

/-- Whether an act is an invalid statement, and nothing but that: no call, no sample, the host as it was. -/
def Invalid (x : Act σ α) : Prop := ∃ message, ∀ h, x h = ⟨.failure (.invalidQuery message), h, []⟩

/-- An invalid statement has no result that could be judged. -/
theorem Invalid.bind {x : Act σ α} (hx : Invalid x) (k : α → Act σ β) : Invalid (x >>= k) := by
  obtain ⟨message, hx⟩ := hx
  refine ⟨message, fun h => ?_⟩
  simp only [Bind.bind, Act.bind, hx h]

theorem invalid_built (hg : t.groupCount = 0) : Invalid (built t : Act σ (String × List Param)) := by
  refine ⟨Statement.Fault.noGroups.message, fun h => ?_⟩
  rw [built, Template.build, Template.statement, if_pos hg]
  rfl

/-- **Templates are run as texts.**  A template that has a group renders with and without its lock clause,
and whatever is asked of it, it is run as that text with the template's parameters; one that has none is an
invalid statement in every form.  In both forms, at most one row gives no row, the row, or a failure that
counts more than one; exactly one row fails without any; one affected row fails with any other number;
and each failure of the statement itself comes out as it is. -/
theorem templates_run_as_texts (s : Service σ) (id : String) (t : Template) :
    (t.groupCount ≠ 0 → ∃ bare rendered, (t.setForUpdate false).build = .ok (bare, t.params) ∧
      t.build = .ok (rendered, t.params) ∧ RunsAs s id t bare rendered) ∧
    (t.groupCount = 0 → Invalid (s.selectTemplate id t) ∧ Invalid (s.selectUniqueTemplate id t) ∧
      Invalid (s.selectUniqueNonEmptyTemplate id t) ∧ Invalid (s.executeTemplate id t) ∧
      Invalid (s.executeOneTemplate id t)) ∧
    Judges (s.selectTemplate id t) (s.executeTemplate id t) (s.executeOneTemplate id t)
      (s.selectUniqueTemplate id t) (s.selectUniqueNonEmptyTemplate id t) ∧
    ∀ sql lock params, Judges (s.select id sql lock params) (s.execute id sql params)
      (s.executeOne id sql params) (s.selectUnique id sql lock params)
      (s.selectUniqueNonEmpty id sql lock params) := by
  refine ⟨fun hg => ?_, fun hg => ?_, judges_of_eq rfl rfl rfl, fun _ _ _ => judges_of_eq rfl rfl rfl⟩
  · have hbare := build_of_groups (t := t.setForUpdate false) hg
    exact ⟨_, _, hbare, build_of_groups hg, runsAs_of_groups hg⟩
  · have hbuilt : Invalid (built t : Act σ (String × List Param)) := invalid_built hg
    have hselect : Invalid (s.selectTemplate id t) := hbuilt.bind _
    have hexecute : Invalid (s.executeTemplate id t) := hbuilt.bind _
    exact ⟨hselect, hselect.bind _, (hselect.bind _).bind _, hexecute, hexecute.bind _⟩

/-- A query for two keys that locks their rows. -/
def twoKeys : Template :=
  ⟨.placeholder "SELECT * FROM t WHERE id IN (#);" "#", "?", [[.int 1], [.int 2]], true⟩

/-- The clause goes before the semicolon, whoever puts it there. -/
theorem templates_run_as_texts_twoKeys :
    let s := Service.plain fun _ => .reply .done
    twoKeys.groupCount ≠ 0 ∧
    s.selectTemplate "a" twoKeys =
      s.select "a" "SELECT * FROM t WHERE id IN (?,?);" true [.int 1, .int 2] ∧
    s.executeTemplate "a" twoKeys =
      s.execute "a" "SELECT * FROM t WHERE id IN (?,?) FOR UPDATE;" [.int 1, .int 2] := by
  intro s
  have hg : twoKeys.groupCount ≠ 0 := by decide
  obtain ⟨bare, rendered, hbare, hrendered, hruns⟩ := (templates_run_as_texts s "a" twoKeys).1 hg
  have hbare' : (twoKeys.setForUpdate false).build =
      .ok ("SELECT * FROM t WHERE id IN (?,?);", [.int 1, .int 2]) := rfl
  have hrendered' : twoKeys.build =
      .ok ("SELECT * FROM t WHERE id IN (?,?) FOR UPDATE;", [.int 1, .int 2]) := rfl
  obtain rfl := (Prod.mk.inj (Except.ok.inj (hbare.symm.trans hbare'))).1
  obtain rfl := (Prod.mk.inj (Except.ok.inj (hrendered.symm.trans hrendered'))).1
  exact ⟨hg, hruns.select, hruns.execute⟩

end Service

end SqlSession
