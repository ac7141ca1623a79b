import Mathlib.Data.List.Induction
import SqlSession.Statement.Template

/-! # What a template renders

A template is made of a composition and a value, and then edited: groups of parameters are added, and
the lock clause is asked for or not.  A group is taken if it fills the markers, and of a plain template
only the first that does; one that is refused leaves the template as it was (`Edited.concat`, `edited`).
The statement is the composition with its value once for each group (`composed_renders`), and
`renders_accepted_groups` puts both together. -/

namespace SqlSession

namespace Text

/-- A text that has a needle is cut at its first occurrence, and a replacement goes there. -/
theorem exists_first_of_occurrences (needle : List Char) : ∀ s : List Char,
    occurrencesFrom needle 0 s ≠ 0 → ∃ before after, s = before ++ needle ++ after ∧
      (∀ p q, s = p ++ needle ++ q → before.length ≤ p.length) ∧
      ∀ replacement, replaceFirst needle replacement s = before ++ replacement ++ after
  | [], h => absurd rfl h
  | c :: r, h => by
      by_cases hp : needle.isPrefixOf (c :: r) = true
      · obtain ⟨after, hafter⟩ := List.isPrefixOf_iff_prefix.mp hp
        refine ⟨[], after, by simpa using hafter.symm, fun p q _ => Nat.zero_le _, ?_⟩
        intro replacement
        rw [replaceFirst, if_pos hp, ← hafter, List.drop_left]
        rfl
      · rw [occurrencesFrom, if_neg hp] at h
        obtain ⟨before, after, hr, hfirst, hreplace⟩ := exists_first_of_occurrences needle r h
        refine ⟨c :: before, after, by rw [hr]; rfl, ?_, ?_⟩
        · intro p q hpq
          cases p with
          | nil => exact absurd (List.isPrefixOf_iff_prefix.mpr ⟨q, hpq.symm⟩) hp
          | cons d p =>
              have htail : r = p ++ needle ++ q := (List.cons.inj hpq).2
              exact Nat.succ_le_succ (hfirst p q htail)
        · intro replacement
          rw [replaceFirst, if_neg hp, hreplace]
          rfl

end Text

namespace Statement

/-! ### Making and editing templates -/

namespace Composition

/-- The template of a composition and a value. -/
def template : Composition → String → Except Fault Template
  | plain, value => Template.plain value
  | placeholder base token, value => Template.placeholder base token value
  | between start stop, value => Template.between start stop value

/-- The composition as a template keeps it: an empty end is made a semicolon. -/
def stored : Composition → Composition
  | between start stop => between start (if stop.isEmpty then defaultEnd else stop)
  | c => c

/-- What a composition makes of a value and of the values that are repeated for the groups.  In a base
only the first occurrence of the token goes. -/
def Renders (value values : String) : Composition → String → Prop
  | plain, text => text = value
  | placeholder base token, text => ∃ before after,
      base.toList = before ++ token.toList ++ after ∧
      (∀ p q, base.toList = p ++ token.toList ++ q → before.length ≤ p.length) ∧
      text.toList = before ++ values.toList ++ after
  | between start stop, text => text = start ++ values ++ if stop = "" then ";" else stop

theorem stored_eq_plain {c : Composition} : c.stored = plain ↔ c = plain := by
  cases c <;> simp [stored]

/-- A template starts with its composition and its value, which has a marker, and without groups; a base
has its token once. -/
theorem eq_of_template {c : Composition} {value : String} {t : Template}
    (ht : c.template value = .ok t) :
    t = ⟨c.stored, value, [], false⟩ ∧ Template.markersIn value ≠ 0 ∧
      ∀ base token, c = placeholder base token → Text.occurrences token.toList base.toList = 1 := by
  have hwith {d : Composition} (hd : Template.withComposition d value = .ok t) :
      t = ⟨d, value, [], false⟩ ∧ Template.markersIn value ≠ 0 := by
    unfold Template.withComposition at hd
    by_cases hm : Template.markersIn value = 0
    · rw [if_pos hm] at hd
      cases hd
    · rw [if_neg hm] at hd
      cases hd
      exact ⟨rfl, hm⟩
  cases c with
  | plain =>
      obtain ⟨rfl, hm⟩ := hwith ht
      exact ⟨rfl, hm, nofun⟩
  | between start stop =>
      obtain ⟨rfl, hm⟩ := hwith ht
      exact ⟨rfl, hm, nofun⟩
  | placeholder base token =>
      simp only [template, Template.placeholder] at ht
      split at ht
      · cases ht
      split at ht
      · cases ht
      · rename_i hfound
        obtain ⟨rfl, hm⟩ := hwith ht
        refine ⟨rfl, hm, ?_⟩
        rintro _ _ ⟨rfl, rfl⟩
        exact not_not.mp hfound

end Composition

/-- What is done to a template under construction. -/
inductive Edit where
  | add (group : List Param)
  | setForUpdate (b : Bool)

namespace Edit

/-- The group that an edit would add. -/
def group? : Edit → Option (List Param)
  | add group => some group
  | setForUpdate _ => none

/-- What an edit says about the lock clause. -/
def flag? : Edit → Option Bool
  | add _ => none
  | setForUpdate b => some b

/-- Whether the last edit that says anything about the lock clause asks for it. -/
def lastFlag (l : List Edit) : Bool := (l.filterMap flag?).getLast?.getD false

end Edit

namespace Template

/-- A template after an edit.  A group that is refused leaves it as it was. -/
def after (t : Template) : Edit → Template
  | .add group =>
    match t.add group with
    | .ok r => r
    | .error _ => t
  | .setForUpdate b => t.setForUpdate b

/-- A template after edits. -/
def afterAll (t : Template) (l : List Edit) : Template := l.foldl after t

/-- The group that an edit adds, unless it is refused. -/
def taken? (t : Template) : Edit → Option (List Param)
  | .add group =>
    match t.add group with
    | .ok _ => some group
    | .error _ => none
  | .setForUpdate _ => none

/-- The groups that edits add, without those that are refused. -/
def accepted (t : Template) : List Edit → List (List Param)
  | [] => []
  | e :: l => (t.taken? e).toList ++ (t.after e).accepted l

end Template

/-- The groups that fill the markers of a value; the first of them only, if the template is plain. -/
def Composition.admitted (c : Composition) (value : String) (l : List Edit) : List (List Param) :=
  let fitting := (l.filterMap Edit.group?).filter fun group =>
    decide (group.length = Template.markersIn value)
  if c = .plain then fitting.take 1 else fitting

namespace Template

/-- Whether a group fits: it fills the markers, and a plain template has none yet. -/
def Admits (t : Template) (group : List Param) : Prop :=
  group.length = t.markers ∧ ¬ (t.composition = .plain ∧ 0 < t.groupCount)

/-- A group is taken exactly if it fits, and comes after those that are there. -/
theorem add_eq_ok_iff {t r : Template} {group : List Param} :
    t.add group = .ok r ↔ t.Admits group ∧ r = { t with groups := t.groups ++ [group] } := by
  unfold add Admits
  by_cases hplain : t.composition = .plain ∧ 0 < t.groupCount
  · simp [hplain]
  by_cases hlen : group.length = t.markers
  · rw [if_neg hplain, if_neg (not_not.mpr hlen)]
    constructor
    · intro h
      cases h
      exact ⟨⟨hlen, hplain⟩, rfl⟩
    · rintro ⟨-, rfl⟩
      rfl
  · rw [if_neg hplain, if_pos hlen]
    constructor
    · intro h
      cases h
    · rintro ⟨⟨h, -⟩, -⟩
      exact absurd h hlen

theorem exists_add_iff {t : Template} {group : List Param} :
    (∃ r, t.add group = .ok r) ↔ t.Admits group := by
  constructor
  · rintro ⟨r, hr⟩
    exact (add_eq_ok_iff.mp hr).1
  · intro h
    exact ⟨_, add_eq_ok_iff.mpr ⟨h, rfl⟩⟩

theorem groups_after (t : Template) (e : Edit) :
    (t.after e).groups = t.groups ++ (t.taken? e).toList := by
  cases e with
  | setForUpdate b => simp [after, taken?, setForUpdate]
  | add group =>
      cases ha : t.add group with
      | error f => simp [after, taken?, ha]
      | ok r =>
          obtain ⟨-, rfl⟩ := add_eq_ok_iff.mp ha
          simp [after, taken?, ha]

/-- The groups of a template after edits are those that it had and those that it has accepted. -/
theorem groups_afterAll (l : List Edit) : ∀ t : Template,
    (t.afterAll l).groups = t.groups ++ t.accepted l := by
  induction l with
  | nil => intro t; simp [afterAll, accepted]
  | cons e l ih =>
      intro t
      have hnext := ih (t.after e)
      rw [groups_after] at hnext
      rw [accepted, ← List.append_assoc, ← hnext]
      rfl

theorem afterAll_concat (t : Template) (l : List Edit) (e : Edit) :
    t.afterAll (l ++ [e]) = (t.afterAll l).after e := by
  simp only [afterAll, List.foldl_append, List.foldl_cons, List.foldl_nil]

/-! ### What edits keep -/

/-- A template made of `c` and `value`, after edits. -/
structure Edited (c : Composition) (value : String) (l : List Edit) (t : Template) : Prop where
  composition_eq : t.composition = c.stored
  value_eq : t.value = value
  groups_eq : t.groups = c.admitted value l
  forUpdate_eq : t.forUpdate = Edit.lastFlag l

namespace Edited

variable {c : Composition} {value : String} {l : List Edit} {t : Template}

theorem markers_eq (h : Edited c value l t) : t.markers = markersIn value := by
  rw [markers, h.value_eq]

theorem plain_iff (h : Edited c value l t) : t.composition = .plain ↔ c = .plain := by
  rw [h.composition_eq, Composition.stored_eq_plain]

theorem length_of_mem (h : Edited c value l t) : ∀ group ∈ t.groups, group.length = t.markers := by
  intro group hg
  rw [h.groups_eq, Composition.admitted] at hg
  rw [h.markers_eq]
  have hfit : group ∈ (l.filterMap Edit.group?).filter fun group =>
      decide (group.length = markersIn value) := by
    split at hg
    · exact List.mem_of_mem_take hg
    · exact hg
  simpa using (List.mem_filter.mp hfit).2

theorem length_params (h : Edited c value l t) : t.params.length = t.groupCount * t.markers := by
  have hmap : t.groups.map List.length = t.groups.map fun _ => t.markers :=
    List.map_congr_left h.length_of_mem
  rw [params, List.length_flatten, hmap, List.map_const', List.sum_replicate_nat, groupCount]

theorem admitted_concat (h : Edited c value l t) {group : List Param} (hfits : t.Admits group) :
    c.admitted value (l ++ [.add group]) = t.groups ++ [group] := by
  obtain ⟨hlen, hroom⟩ := hfits
  rw [h.markers_eq] at hlen
  rw [h.plain_iff, groupCount] at hroom
  have hgroups := h.groups_eq
  unfold Composition.admitted at hgroups ⊢
  rw [List.filterMap_append, List.filter_append]
  have hone : ([Edit.add group].filterMap Edit.group?).filter (fun group =>
      decide (group.length = markersIn value)) = [group] := by
    simp [Edit.group?, hlen]
  rw [hone]
  by_cases hplain : c = .plain
  · -- no group has fitted so far
    rw [if_pos hplain] at hgroups ⊢
    have hempty : t.groups = [] := by
      by_contra hne
      exact hroom ⟨hplain, List.length_pos_iff.mpr hne⟩
    rw [hempty] at hgroups ⊢
    rcases List.take_eq_nil_iff.mp hgroups.symm with hone | hnone
    · cases hone
    · rw [hnone]
      rfl
  · rw [if_neg hplain] at hgroups ⊢
    rw [hgroups]

theorem admitted_refused (h : Edited c value l t) {group : List Param} (hfits : ¬ t.Admits group) :
    c.admitted value (l ++ [.add group]) = t.groups := by
  have hgroups := h.groups_eq
  unfold Composition.admitted at hgroups ⊢
  rw [List.filterMap_append, List.filter_append]
  by_cases hlen : group.length = markersIn value
  · have hfull : c = .plain ∧ 0 < t.groups.length := by
      by_contra hroom
      rw [← h.plain_iff] at hroom
      exact hfits ⟨by rw [h.markers_eq, hlen], hroom⟩
    rw [if_pos hfull.1] at hgroups ⊢
    have hlength := congrArg List.length hgroups
    rw [List.length_take] at hlength
    rw [List.take_append_of_le_length (by omega), hgroups]
  · have hnone : ([Edit.add group].filterMap Edit.group?).filter (fun group =>
        decide (group.length = markersIn value)) = [] := by
      simp [Edit.group?, hlen]
    rw [hnone, List.append_nil, hgroups]

theorem concat (h : Edited c value l t) (e : Edit) : Edited c value (l ++ [e]) (t.after e) := by
  have hflag : Edit.lastFlag (l ++ [e]) = e.flag?.getD (Edit.lastFlag l) := by
    cases e <;> simp [Edit.lastFlag, Edit.flag?]
  cases e with
  | setForUpdate b =>
      refine ⟨h.composition_eq, h.value_eq, ?_, hflag.symm⟩
      have hsame : (l ++ [Edit.setForUpdate b]).filterMap Edit.group? = l.filterMap Edit.group? := by
        simp [List.filterMap_append, Edit.group?]
      rw [Composition.admitted, hsame]
      exact h.groups_eq
  | add group =>
      cases ha : t.add group with
      | ok r =>
          obtain ⟨hfits, rfl⟩ := add_eq_ok_iff.mp ha
          have hafter : t.after (.add group) = { t with groups := t.groups ++ [group] } := by
            simp only [after, ha]
          rw [hafter]
          exact ⟨h.composition_eq, h.value_eq, (h.admitted_concat hfits).symm,
            h.forUpdate_eq.trans hflag.symm⟩
      | error f =>
          have hnot : ¬ t.Admits group := by
            intro hfits
            obtain ⟨r, hr⟩ := exists_add_iff.mpr hfits
            rw [ha] at hr
            cases hr
          have hafter : t.after (.add group) = t := by
            simp only [after, ha]
          rw [hafter]
          exact ⟨h.composition_eq, h.value_eq, (h.admitted_refused hnot).symm,
            h.forUpdate_eq.trans hflag.symm⟩

end Edited

/-- **What edits make of a template.** -/
theorem edited {c : Composition} {value : String} {t : Template} (ht : c.template value = .ok t)
    (l : List Edit) : Edited c value l (t.afterAll l) := by
  induction l using List.reverseRecOn with
  | nil =>
      obtain ⟨rfl, -, -⟩ := Composition.eq_of_template ht
      refine ⟨rfl, rfl, ?_, rfl⟩
      simp [Composition.admitted, afterAll]
  | append_singleton l e ih =>
      rw [afterAll_concat]
      exact ih.concat e

/-! ### Rendering -/

theorem composed_renders {c : Composition} {value : String} {t r : Template} {l : List Edit}
    (ht : c.template value = .ok t) (h : Edited c value l r) :
    c.Renders value (",".intercalate (List.replicate r.groupCount value)) r.composed := by
  obtain ⟨-, -, honce⟩ := Composition.eq_of_template ht
  have hrepeated : r.repeated = ",".intercalate (List.replicate r.groupCount value) := by
    rw [repeated, h.value_eq]
  rw [← hrepeated]
  cases c with
  | plain =>
      have hc : r.composition = .plain := h.composition_eq
      simp only [composed, hc, Composition.Renders, h.value_eq]
  | between start stop =>
      have hc := h.composition_eq
      simp only [Composition.stored] at hc
      simp only [composed, hc, Composition.Renders, String.isEmpty_iff]
      split <;> rfl
  | placeholder base token =>
      have hc : r.composition = .placeholder base token := h.composition_eq
      have hne : Text.occurrencesFrom token.toList 0 base.toList ≠ 0 := by
        have hfound := honce base token rfl
        rw [Text.occurrences] at hfound
        omega
      obtain ⟨before, after, hbase, hfirst, hreplace⟩ := Text.exists_first_of_occurrences _ _ hne
      refine ⟨before, after, hbase, hfirst, ?_⟩
      simp only [composed, hc, hreplace, String.toList_ofList]

theorem statement_eq (t : Template) : t.statement = if t.groupCount = 0 then .error .noGroups
    else .ok (if t.forUpdate then locked t.composed else t.composed) := rfl

theorem build_eq (t : Template) : t.build = if t.groupCount = 0 then .error .noGroups
    else .ok (if t.forUpdate then locked t.composed else t.composed, t.params) := by
  rw [build, statement_eq]
  split <;> rfl

end Template

/-- What edits make of a template of `c` and `value`. -/
structure Template.Accounts (c : Composition) (value : String) (t : Template) (l : List Edit) : Prop where
  /-- A group is accepted if it fills the markers, unless the template is plain and has one. -/
  accepts_iff : ∀ group, (∃ r, (t.afterAll l).add group = .ok r) ↔
    group.length = (t.afterAll l).markers ∧ ¬ (c = .plain ∧ 0 < (t.afterAll l).groupCount)
  /-- A refused group changes nothing. -/
  refused : ∀ group f, (t.afterAll l).add group = .error f →
    t.afterAll (l ++ [.add group]) = t.afterAll l
  markers_eq : (t.afterAll l).markers = Template.markersIn value
  /-- What has been accepted are the groups that fit; of a plain template, the first of them. -/
  accepted_eq : t.accepted l = c.admitted value l
  params_eq : (t.afterAll l).params = (t.accepted l).flatten
  groupCount_eq : (t.afterAll l).groupCount = (t.accepted l).length
  length_params : (t.afterAll l).params.length = (t.afterAll l).groupCount * (t.afterAll l).markers
  forUpdate_eq : (t.afterAll l).forUpdate = Edit.lastFlag l
  statement_fails_iff : (∃ f, (t.afterAll l).statement = .error f) ↔ (t.afterAll l).groupCount = 0
  build_fails_iff : (∃ f, (t.afterAll l).build = .error f) ↔ (t.afterAll l).groupCount = 0
  /-- The statement is the composition with the value once for each group, and has a lock clause if the
  last word on it was for one. -/
  renders : (t.afterAll l).groupCount ≠ 0 → ∃ text,
    c.Renders value (",".intercalate (List.replicate (t.afterAll l).groupCount value)) text ∧
    (t.afterAll l).statement = .ok (if Edit.lastFlag l then locked text else text) ∧
    (t.afterAll l).build =
      .ok (if Edit.lastFlag l then locked text else text, (t.afterAll l).params)

/-- **A template renders the groups that it has accepted**, however it is edited. -/
theorem renders_accepted_groups {c : Composition} {value : String} {t : Template}
    (ht : c.template value = .ok t) (l : List Edit) : t.Accounts c value l := by
  have hedited := Template.edited ht l
  have hgroups : (t.afterAll l).groups = t.accepted l := by
    obtain ⟨rfl, -, -⟩ := Composition.eq_of_template ht
    exact Template.groups_afterAll l _
  constructor
  case accepts_iff =>
    intro group
    rw [Template.exists_add_iff, Template.Admits, hedited.plain_iff]
  case refused =>
    intro group f hf
    rw [Template.afterAll_concat]
    simp only [Template.after, hf]
  case markers_eq => exact hedited.markers_eq
  case accepted_eq => rw [← hgroups, hedited.groups_eq]
  case params_eq => rw [Template.params, hgroups]
  case groupCount_eq => rw [Template.groupCount, hgroups]
  case length_params => exact hedited.length_params
  case forUpdate_eq => exact hedited.forUpdate_eq
  case statement_fails_iff =>
    rw [Template.statement_eq]
    split <;> simp [*]
  case build_fails_iff =>
    rw [Template.build_eq]
    split <;> simp [*]
  case renders =>
    intro hne
    refine ⟨(t.afterAll l).composed, Template.composed_renders ht hedited, ?_, ?_⟩
    · rw [Template.statement_eq, if_neg hne, hedited.forUpdate_eq]
    · rw [Template.build_eq, if_neg hne, hedited.forUpdate_eq]

/-- A token that overlaps itself in the base and stands in the value, with a refused group before two
that are accepted. -/
theorem renders_accepted_groups_overlapping :
    let edits : List Edit :=
      [.add [.null, .null], .setForUpdate true, .add [.int 1], .add [.int 2]]
    ∃ t, (Composition.placeholder "x IN (aaa)" "aa").template "(?,aa)" = .ok t ∧
      (t.afterAll edits).build = .ok ("x IN ((?,aa),(?,aa)a) FOR UPDATE", [.int 1, .int 2]) ∧
      t.Accounts (.placeholder "x IN (aaa)" "aa") "(?,aa)" edits :=
  ⟨_, rfl, rfl, renders_accepted_groups rfl _⟩

end Statement

end SqlSession
