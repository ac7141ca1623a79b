import Mathlib.Data.Finset.Dedup
import Mathlib.Data.Finset.Card
import SqlSession.Row

/-! # Looking up columns

What a row holds after columns have been put into it one after the other: the names are those of the
columns, each where it first came (`names_ofColumns`), and under each name the last column of that name
is found (`get?_ofColumns`). -/

namespace SqlSession.Row

/-! ### One column -/

theorem columns_put_of_some {r : Row} {c : Column} {i : Nat} (h : r.index.lookup c.name = some i) :
    (r.put c).columns = r.columns.set i c ∧ (r.put c).index = r.index := by
  unfold put
  split
  · rename_i j hj
    obtain rfl := Option.some.inj (h.symm.trans hj)
    exact ⟨rfl, rfl⟩
  · rename_i hn
    rw [h] at hn
    cases hn

theorem columns_put_of_none {r : Row} {c : Column} (h : r.index.lookup c.name = none) :
    (r.put c).columns = r.columns ++ [c] ∧
    (r.put c).index = (c.name, r.columns.length) :: r.index := by
  unfold put
  split
  · rename_i j hj
    rw [h] at hj
    cases hj
  · exact ⟨rfl, rfl⟩

theorem lookup_eq_none_iff {r : Row} {name : String} :
    r.index.lookup name = none ↔ name ∉ r.names := by
  rw [names, List.mem_iff_getElem?, Option.eq_none_iff_forall_ne_some, not_exists]
  refine forall_congr' fun i => ?_
  rw [Ne, r.lookup_index, List.getElem?_map]

theorem names_put (r : Row) (c : Column) :
    (r.put c).names = if c.name ∈ r.names then r.names else r.names ++ [c.name] := by
  cases h : r.index.lookup c.name with
  | none =>
      rw [if_neg (lookup_eq_none_iff.1 h), names, (columns_put_of_none h).1, List.map_append]
      rfl
  | some i =>
      have hi := (r.lookup_index _ _).1 h
      have hmem : c.name ∈ r.names := by
        by_contra hn
        rw [lookup_eq_none_iff.2 hn] at h
        cases h
      rw [if_pos hmem, names, (columns_put_of_some h).1, List.map_set]
      -- The name that is written at the position is the one that stands there.
      refine List.ext_getElem? fun j => ?_
      rw [List.getElem?_set, List.length_map]
      split
      · subst j
        split
        · rw [names, List.getElem?_map, hi]
        · rename_i hlt
          rw [List.getElem?_eq_none (by omega)] at hi
          cases hi
      · rfl

/-- The column that was put last is found under its name, and nothing changes under other names. -/
theorem get?_put (r : Row) (c : Column) (name : String) :
    (r.put c).get? name = if c.name = name then some c else r.get? name := by
  unfold get?
  cases h : r.index.lookup c.name with
  | none =>
      rw [(columns_put_of_none h).1, (columns_put_of_none h).2, List.lookup_cons]
      by_cases hname : c.name = name
      · simp [hname]
      · have hne : (name == c.name) = false := by simpa using Ne.symm hname
        rw [hne, if_neg hname]
        cases hl : r.index.lookup name with
        | none => rfl
        | some j =>
            have hj := (r.lookup_index _ _).1 hl
            have hlt : j < r.columns.length := by
              by_contra hn
              rw [List.getElem?_eq_none (by omega)] at hj
              cases hj
            exact List.getElem?_append_left hlt
  | some i =>
      have hi := (r.lookup_index _ _).1 h
      rw [(columns_put_of_some h).1, (columns_put_of_some h).2]
      by_cases hname : c.name = name
      · subst hname
        have hlt : i < r.columns.length := by
          by_contra hn
          rw [List.getElem?_eq_none (by omega)] at hi
          cases hi
        rw [h, if_pos rfl]
        exact List.getElem?_set_self hlt
      · rw [if_neg hname]
        cases hl : r.index.lookup name with
        | none => rfl
        | some j =>
            -- One position has one name.
            have hne : i ≠ j := by
              rintro rfl
              rw [r.lookup_index, hi] at hl
              exact hname (Option.some.inj hl)
            exact List.getElem?_set_ne hne

/-! ### All columns -/

theorem ofColumns_concat (cs : List Column) (c : Column) :
    ofColumns (cs ++ [c]) = (ofColumns cs).put c := by
  rw [ofColumns, List.foldl_append]
  rfl

/-- The names of a row are those of its columns, each where it first came. -/
theorem names_ofColumns (cs : List Column) :
    (ofColumns cs).names = (cs.map Column.name).eraseDups := by
  induction cs using List.reverseRecOn with
  | nil => rfl
  | append_singleton cs c ih =>
      rw [ofColumns_concat, names_put, ih, List.map_append, List.eraseDups_append, List.map_singleton,
        List.removeAll]
      by_cases h : c.name ∈ cs.map Column.name
      · have hknown : [c.name].filter (fun n => !(cs.map Column.name).elem n) = [] := by simpa using h
        rw [if_pos (List.mem_eraseDups.2 h), hknown, List.eraseDups_nil, List.append_nil]
      · have hnew : [c.name].filter (fun n => !(cs.map Column.name).elem n) = [c.name] := by
          simpa using h
        rw [if_neg (mt List.mem_eraseDups.1 h), hnew]
        rfl

theorem nodup_names (r : Row) : r.names.Nodup := by
  rw [List.nodup_iff_getElem?_ne_getElem?]
  intro i j hij hj he
  have hname : r.names[i]? = some r.names[j] := he.trans (List.getElem?_eq_getElem hj)
  have hi := (r.lookup_index _ _).2 ((List.getElem?_map ..).symm.trans hname)
  have hj := (r.lookup_index _ _).2 ((List.getElem?_map ..).symm.trans (List.getElem?_eq_getElem hj))
  exact hij.ne (Option.some.inj (hi.symm.trans hj))

theorem size_ofColumns (cs : List Column) :
    (ofColumns cs).size = (cs.map Column.name).toFinset.card := by
  have hsame : (ofColumns cs).names.toFinset = (cs.map Column.name).toFinset := by
    ext name
    rw [names_ofColumns, List.mem_toFinset, List.mem_toFinset, List.mem_eraseDups]
  calc (ofColumns cs).size
      = (ofColumns cs).names.length := (List.length_map _).symm
    _ = (ofColumns cs).names.toFinset.card :=
        (List.toFinset_card_of_nodup (nodup_names _)).symm
    _ = (cs.map Column.name).toFinset.card := by rw [hsame]

/-- Under each name the last column of that name is found. -/
theorem get?_ofColumns (cs : List Column) (name : String) :
    (ofColumns cs).get? name = (cs.filter (·.name = name)).getLast? := by
  induction cs using List.reverseRecOn with
  | nil => rfl
  | append_singleton cs c ih =>
      rw [ofColumns_concat, get?_put, ih, List.filter_append]
      by_cases h : c.name = name
      · simp [h]
      · simp [h]

end SqlSession.Row
