import SqlSession.Proofs.Statement.Locking
import SqlSession.Proofs.Statement.Rendering

/-! # Markers of a rendered statement

A template counts the markers of its value, and every group fills them.  The text around the values is
not looked at: its markers stand in the statement as well, and no parameter belongs to them.  So a
statement has as many markers as parameters, and those of the text around (`markers_of_built`). -/

namespace SqlSession

namespace Text

theorem count_intercalate_replicate {c : Char} {sep : List Char} (hc : c ∉ sep) (s : List Char) :
    ∀ n, (sep.intercalate (List.replicate n s)).count c = n * s.count c
  | 0 => by simp
  | 1 => by simp
  | n + 2 => by
      have ih := count_intercalate_replicate hc s (n + 1)
      rw [List.replicate_succ] at ih
      rw [List.replicate_succ, List.replicate_succ, List.intercalate_cons_cons, List.count_append,
        List.count_append, List.count_eq_zero.mpr hc, ih, Nat.add_zero, Nat.succ_mul (n + 1),
        Nat.add_comm]

end Text

namespace Statement

/-! ### The lock clause has no markers -/

theorem HasBody.count_marker {s body stop : List Char} (h : HasBody s body stop) :
    s.count marker = body.count marker := by
  have hnone {gap : List Char} (hb : Text.Blank gap) : gap.count marker = 0 :=
    List.count_eq_zero.mpr fun hm => absurd (hb marker hm) (by decide)
  cases h with
  | stopped hbody hgap htail =>
      rw [List.count_append, List.count_append, hnone hgap, List.count_cons_of_ne (by decide), hnone htail]
      rfl
  | unstopped hbody hlast htail =>
      rw [List.count_append, hnone htail]
      rfl

theorem markersIn_locked (s : String) :
    Template.markersIn (locked s) = Template.markersIn s := by
  obtain ⟨body, stop, hb⟩ := exists_hasBody s.toList
  have hstop : stop.count marker = 0 := by
    rcases hb.stop_cases with rfl | rfl <;> decide
  have hclause : (if endsInLockClause body then [] else lockClause).count marker = 0 := by
    split <;> decide
  rw [Template.markersIn, locked, String.toList_ofList, lockedText_of_hasBody hb, List.count_append,
    List.count_append, hclause, hstop, Template.markersIn, hb.count_marker]
  rfl

/-! ### Markers around the values -/

/-- The markers of the text around the values. -/
def Composition.markersAround : Composition → Nat
  | plain => 0
  | placeholder base token => Template.markersIn base - Template.markersIn token
  | between start stop => Template.markersIn start + Template.markersIn stop

namespace Template

theorem markersIn_append (s t : String) : markersIn (s ++ t) = markersIn s + markersIn t := by
  rw [markersIn, String.toList_append, List.count_append]
  rfl

theorem markersIn_repeated (value : String) (n : Nat) :
    markersIn (",".intercalate (List.replicate n value)) = n * markersIn value := by
  rw [markersIn, String.toList_intercalate, List.map_replicate]
  exact Text.count_intercalate_replicate (by decide) value.toList n

theorem Edited.groupCount_le {value : String} {l : List Edit} {t : Template}
    (h : Edited .plain value l t) : t.groupCount ≤ 1 := by
  rw [groupCount, h.groups_eq, Composition.admitted, if_pos rfl]
  exact List.length_take_le 1 _

end Template

/-- The markers of a text are those of the values and those around. -/
theorem Composition.Renders.markersIn {c : Composition} {value text : String} {n : Nat}
    (hr : c.Renders value (",".intercalate (List.replicate n value)) text)
    (hplain : c = .plain → n = 1) :
    Template.markersIn text = n * Template.markersIn value + c.markersAround := by
  have hvalues := Template.markersIn_repeated value n
  cases c with
  | plain =>
      rw [show text = value from hr, hplain rfl, Nat.one_mul]
      rfl
  | placeholder base token =>
      obtain ⟨before, after, hbase, -, htext⟩ := hr
      simp only [Template.markersIn, markersAround] at hvalues ⊢
      rw [htext, hbase]
      simp only [List.count_append]
      omega
  | between start stop =>
      have hstop : Template.markersIn (if stop = "" then ";" else stop) = Template.markersIn stop := by
        split
        · rename_i he
          subst he
          rfl
        · rfl
      rw [show text = _ from hr, Template.markersIn_append, Template.markersIn_append, hstop, hvalues,
        markersAround]
      omega

/-- **The markers of a statement are those that its parameters fill, and those of the text around.**  So
the numbers agree exactly if there are none around. -/
theorem markers_of_built {c : Composition} {value : String} {t : Template}
    (ht : c.template value = .ok t) (l : List Edit) {sql : String} {params : List Param}
    (hb : (t.afterAll l).build = .ok (sql, params)) :
    Template.markersIn sql = params.length + c.markersAround ∧
    (Template.markersIn sql = params.length ↔ c.markersAround = 0) := by
  have hedited := Template.edited ht l
  have hrenders := Template.composed_renders ht hedited
  rw [Template.build_eq] at hb
  split at hb
  · cases hb
  rename_i hne
  obtain ⟨rfl, rfl⟩ := Prod.mk.inj (Except.ok.inj hb)
  have hlocked : ∀ b : Bool, Template.markersIn
      (if b then locked (t.afterAll l).composed else (t.afterAll l).composed) =
      Template.markersIn (t.afterAll l).composed := by
    intro b
    cases b
    · rfl
    · exact markersIn_locked _
  have hcount : Template.markersIn (t.afterAll l).composed =
      (t.afterAll l).params.length + c.markersAround := by
    rw [hedited.length_params, hedited.markers_eq]
    apply hrenders.markersIn
    rintro rfl
    have hle := hedited.groupCount_le
    omega
  rw [hlocked, hcount]
  constructor
  · rfl
  · omega

/-- A base with a marker of its own. -/
def markedBase : Composition := .placeholder "UPDATE t SET a = ? WHERE id IN (#)" "#"

/-- A group for the value in that base. -/
theorem markers_of_built_markedBase : ∃ t, markedBase.template "?" = .ok t ∧
    (t.afterAll [.add [.int 1]]).build = .ok ("UPDATE t SET a = ? WHERE id IN (?)", [.int 1]) ∧
    Template.markersIn "UPDATE t SET a = ? WHERE id IN (?)" =
      [Param.int 1].length + markedBase.markersAround ∧
    (Template.markersIn "UPDATE t SET a = ? WHERE id IN (?)" = [Param.int 1].length ↔
      markedBase.markersAround = 0) := by
  have ht : markedBase.template "?" = .ok ⟨markedBase, "?", [], false⟩ := rfl
  have hb : (Template.afterAll ⟨markedBase, "?", [], false⟩ [.add [.int 1]]).build =
      .ok ("UPDATE t SET a = ? WHERE id IN (?)", [.int 1]) := rfl
  exact ⟨_, ht, hb, markers_of_built ht [.add [.int 1]] hb⟩

/-- That base is accepted, and its statement has more markers than parameters. -/
theorem markedBase_unbound : ∃ t, markedBase.template "?" = .ok t ∧
    (t.afterAll [.add [.int 1]]).build = .ok ("UPDATE t SET a = ? WHERE id IN (?)", [.int 1]) ∧
    Template.markersIn "UPDATE t SET a = ? WHERE id IN (?)" ≠ [Param.int 1].length :=
  ⟨_, rfl, rfl, by decide⟩

end Statement

end SqlSession
