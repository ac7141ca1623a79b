import SqlSession.Proofs.Rows.Lookup
import SqlSession.RowSet

/-! # Decoding row sets

Every push of as many values as there are names is taken, every other push fails and leaves the row set
as it was, and decoding gives one row for each push that was taken, in order: its names are the different
names of the row set, and under each name stands the value at the last position of that name
(`decode_afterPushes`). -/

namespace SqlSession

namespace RowSet

/-! ### Pushing -/

/-- The row set that pushes leave, made one after the other whether or not they fail. -/
def afterPushes (s : RowSet) (pushes : List (List Value)) : RowSet :=
  pushes.foldl (fun t values => (t.push values).2) s

/-- Of pushes made one after the other, those that do not fail. -/
def accepted (s : RowSet) : List (List Value) → List (List Value)
  | [] => []
  | values :: r =>
    match s.push values with
    | (.ok (), t) => values :: t.accepted r
    | (.error _, t) => t.accepted r

theorem push_of_width {s : RowSet} {values : List Value} (h : values.length = s.names.length) :
    s.push values = (.ok (), ⟨s.names, s.rows ++ [values]⟩) := if_pos h

theorem push_of_ne {s : RowSet} {values : List Value} (h : values.length ≠ s.names.length) :
    s.push values =
      (.error (.internal s!"driver returned {values.length} values for {s.names.length} columns"), s) :=
  if_neg h

theorem push_fails_iff {s : RowSet} {values : List Value} :
    (∃ e, (s.push values).1 = .error e) ↔ values.length ≠ s.names.length := by
  constructor
  · rintro ⟨e, he⟩ h
    rw [push_of_width h] at he
    cases he
  · intro h
    rw [push_of_ne h]
    exact ⟨_, rfl⟩

/-- What pushes do to a row set: the names stay, and the rows that are taken come after those there
are.  Those taken are the ones of the right width. -/
theorem afterPushes_eq (pushes : List (List Value)) : ∀ s : RowSet,
    s.afterPushes pushes = ⟨s.names, s.rows ++ s.accepted pushes⟩ ∧
    s.accepted pushes = pushes.filter fun values => values.length = s.names.length := by
  induction pushes with
  | nil =>
      intro s
      exact ⟨by simp [afterPushes, accepted], rfl⟩
  | cons values r ih =>
      intro s
      by_cases h : values.length = s.names.length
      · have hp := push_of_width h
        obtain ⟨hrows, hacc⟩ := ih ⟨s.names, s.rows ++ [values]⟩
        have hafter : s.afterPushes (values :: r) =
            afterPushes ⟨s.names, s.rows ++ [values]⟩ r := by
          rw [afterPushes, List.foldl_cons, hp]
          rfl
        have htaken : s.accepted (values :: r) =
            values :: accepted ⟨s.names, s.rows ++ [values]⟩ r := by
          rw [accepted, hp]
        rw [hafter, hrows, htaken, List.filter_cons, if_pos (by simpa using h), hacc]
        exact ⟨by rw [List.append_assoc]; rfl, rfl⟩
      · have hp := push_of_ne h
        obtain ⟨hrows, hacc⟩ := ih s
        have hafter : s.afterPushes (values :: r) = s.afterPushes r := by
          rw [afterPushes, List.foldl_cons, hp]
          rfl
        have hrefused : s.accepted (values :: r) = s.accepted r := by
          rw [accepted, hp]
        rw [hafter, hrows, hrefused, List.filter_cons, if_neg (by simpa using h)]
        exact ⟨rfl, hacc⟩

/-! ### One row -/

/-- A row that holds values under names: each name once, where it first came, with the value at its last
position. -/
structure Holds (names : List String) (values : List Value) (row : Row) : Prop where
  names_eq : row.names = names.eraseDups
  size_eq : row.size = names.toFinset.card
  get?_of_last : ∀ {i : Nat} {name : String}, names[i]? = some name →
    (∀ j, i < j → names[j]? ≠ some name) → ∃ v, values[i]? = some v ∧ row.get? name = some ⟨name, v⟩
  get?_of_notMem : ∀ {name : String}, name ∉ names → row.get? name = none

theorem getLast?_filter_eq {α : Type} {p : α → Bool} {l : List α} {i : Nat} {a : α}
    (ha : l[i]? = some a) (hp : p a) (hlast : ∀ j, i < j → ∀ b, l[j]? = some b → ¬ p b) :
    (l.filter p).getLast? = some a := by
  obtain ⟨hlt, rfl⟩ := List.getElem?_eq_some_iff.1 ha
  have hafter : (l.drop (i + 1)).filter p = [] := by
    rw [List.filter_eq_nil_iff]
    intro b hb
    obtain ⟨j, hj⟩ := List.mem_iff_getElem?.1 hb
    rw [List.getElem?_drop] at hj
    exact hlast (i + 1 + j) (by omega) b hj
  calc (l.filter p).getLast?
      = ((l.take i ++ [l[i]] ++ l.drop (i + 1)).filter p).getLast? := by simp
    _ = ((l.take i).filter p ++ [l[i]]).getLast? := by
        rw [List.filter_append, hafter, List.append_nil, List.filter_append, List.filter_singleton, hp]
        rfl
    _ = some l[i] := List.getLast?_concat

theorem rowOf_holds {names : List String} {values : List Value} (h : values.length = names.length) :
    Holds names values (rowOf names values) := by
  have hnames : (List.zipWith Column.mk names values).map Column.name = names := by
    refine List.ext_getElem? fun j => ?_
    rw [List.getElem?_map, List.getElem?_zipWith]
    by_cases hj : j < names.length
    · rw [List.getElem?_eq_getElem hj, List.getElem?_eq_getElem (by omega : j < values.length)]
      rfl
    · rw [List.getElem?_eq_none (by omega : names.length ≤ j)]
      rfl
  refine ⟨?_, ?_, ?_, ?_⟩
  · rw [rowOf, Row.names_ofColumns, hnames]
  · rw [rowOf, Row.size_ofColumns, hnames]
  · intro i name hi hlast
    obtain ⟨hlt, -⟩ := List.getElem?_eq_some_iff.1 hi
    have hv : values[i]? = some values[i] := List.getElem?_eq_getElem (by omega)
    refine ⟨_, hv, ?_⟩
    rw [rowOf, Row.get?_ofColumns]
    refine getLast?_filter_eq (i := i) (by rw [List.getElem?_zipWith, hi, hv]) (by simp) ?_
    intro j hij c hc
    have hj : names[j]? = some c.name := by
      rw [← hnames, List.getElem?_map, hc]
      rfl
    rintro hn
    obtain rfl := of_decide_eq_true hn
    exact hlast j hij hj
  · intro name hmem
    rw [rowOf, Row.get?_ofColumns, List.getLast?_eq_none_iff, List.filter_eq_nil_iff]
    intro c hc hn
    obtain rfl := of_decide_eq_true hn
    rw [← hnames] at hmem
    exact hmem (List.mem_map_of_mem hc)

/-! ### All rows -/

/-- **Decoding loses and invents nothing.**  After any pushes, the next one fails exactly if it has not
as many values as there are names, and then it changes nothing; the rows are those of the pushes that did
not fail, in order, each holding its values under the names. -/
theorem decode_afterPushes (names : List String) (pushes : List (List Value)) :
    (∀ values,
      ((∃ e, (((new names).afterPushes pushes).push values).1 = .error e) ↔
        values.length ≠ names.length) ∧
      (values.length ≠ names.length →
        (((new names).afterPushes pushes).push values).2 = (new names).afterPushes pushes)) ∧
    (new names).accepted pushes = pushes.filter (fun values => values.length = names.length) ∧
    List.Forall₂ (Holds names) ((new names).accepted pushes)
      ((new names).afterPushes pushes).decode := by
  obtain ⟨hafter, hacc⟩ := afterPushes_eq pushes (new names)
  have hnames : ((new names).afterPushes pushes).names = names := by
    rw [hafter]
    rfl
  refine ⟨fun values => ⟨?_, fun h => ?_⟩, hacc, ?_⟩
  · rw [push_fails_iff, hnames]
  · rw [push_of_ne (by rwa [hnames])]
  · rw [decode, hnames, hafter, List.forall₂_map_right_iff]
    refine List.forall₂_same.2 fun values hv => rowOf_holds ?_
    rw [hacc] at hv
    exact of_decide_eq_true (List.mem_filter.1 hv).2

/-- Of two pushes under a name that comes twice, the narrow one is refused, and the last value counts. -/
theorem decode_afterPushes_repeatedName :
    let s := (new ["n", "m", "n"]).afterPushes [[.int 1, .int 2, .int 3], [.int 4]]
    [Value.int 4].length ≠ ["n", "m", "n"].length ∧ (s.push [.int 4]).2 = s ∧
    ∃ row, s.decode = [row] ∧ row.names = ["n", "m"] ∧ row.get? "n" = some ⟨"n", .int 3⟩ := by
  intro s
  have hwidth : [Value.int 4].length ≠ ["n", "m", "n"].length := by decide
  obtain ⟨hpush, hacc, hrows⟩ :=
    decode_afterPushes ["n", "m", "n"] [[.int 1, .int 2, .int 3], [.int 4]]
  rw [show (new ["n", "m", "n"]).accepted [[.int 1, .int 2, .int 3], [.int 4]] =
    [[.int 1, .int 2, .int 3]] from rfl] at hrows
  obtain ⟨row, rest, hrow, hrest, hdecode⟩ := List.forall₂_cons_left_iff.1 hrows
  obtain rfl := List.forall₂_nil_left_iff.1 hrest
  have hlast : ∀ j, 2 < j → ["n", "m", "n"][j]? ≠ some "n" := by
    intro j hj
    rw [List.getElem?_eq_none (by simp; omega)]
    nofun
  obtain ⟨v, hv, hget⟩ := hrow.get?_of_last rfl hlast
  obtain rfl : Value.int 3 = v := Option.some.inj hv
  exact ⟨hwidth, (hpush _).2 hwidth, row, hdecode, hrow.names_eq, hget⟩

end RowSet

end SqlSession
