import SqlSession.Proofs.Rows.Decoding

/-! # Whose names the rows have

The rows that a driver reports each have names of their own, and a row set has those of the first.  A row
is taken for its width alone (`pushRow_ok_iff`): if every row is readable and as wide as the first one's
names, all are taken, and else the first that is not decides the failure (`foldlM_pushRow_error_iff`).  So a
value stands under the name that its own row reports for it if the first row has that name in the same place,
and not in a later one again (`decode_ofDriverRows`). -/

namespace SqlSession

namespace DriverRow

/-- Whether a row is readable, and as wide as so many names. -/
def Gives (r : DriverRow) (width : Nat) (values : List Value) : Prop :=
  r.values = .ok values ∧ values.length = width

/-- Why a row is not taken: it cannot be read, or it has another width. -/
def RefusedWith (r : DriverRow) (width : Nat) (e : Failure) : Prop :=
  r.values = .error e ∨ ∃ values, r.values = .ok values ∧ values.length ≠ width ∧
    e = .internal s!"driver returned {values.length} values for {width} columns"

end DriverRow

namespace RowSet

variable {s t : RowSet} {r : DriverRow} {rows : List DriverRow} {e : Failure}

/-! ### One row -/

theorem pushRow_eq (s : RowSet) (r : DriverRow) : s.pushRow r = match r.values with
    | .ok values =>
      if values.length = s.names.length then .ok ⟨s.names, s.rows ++ [values]⟩
      else .error (.internal s!"driver returned {values.length} values for {s.names.length} columns")
    | .error e => .error e := by
  rw [pushRow]
  cases r.values with
  | error e => rfl
  | ok values =>
      by_cases h : values.length = s.names.length
      · simp [pushAll, push_of_width h, h, bind, Except.bind]
      · simp [pushAll, push_of_ne h, h, bind, Except.bind]

theorem pushRow_ok_iff : s.pushRow r = .ok t ↔
    ∃ values, r.Gives s.names.length values ∧ t = ⟨s.names, s.rows ++ [values]⟩ := by
  rw [pushRow_eq]
  cases hv : r.values with
  | error e => simp [DriverRow.Gives, hv]
  | ok values =>
      by_cases h : values.length = s.names.length
      · simp [DriverRow.Gives, hv, h, eq_comm]
      · simp [DriverRow.Gives, hv, h]

theorem pushRow_error_iff : s.pushRow r = .error e ↔ r.RefusedWith s.names.length e := by
  rw [pushRow_eq]
  cases hv : r.values with
  | error e' => simp [DriverRow.RefusedWith, hv]
  | ok values =>
      by_cases h : values.length = s.names.length
      · simp [DriverRow.RefusedWith, hv, h]
      · simp [DriverRow.RefusedWith, hv, h, eq_comm (a := e)]

/-! ### All rows -/

theorem foldlM_pushRow_ok_iff : rows.foldlM pushRow s = .ok t ↔
    ∃ pushes, List.Forall₂ (fun r => DriverRow.Gives r s.names.length) rows pushes ∧
      t = ⟨s.names, s.rows ++ pushes⟩ := by
  induction rows generalizing s with
  | nil =>
      constructor
      · rintro h
        cases h
        exact ⟨[], .nil, by simp⟩
      · rintro ⟨_, ⟨⟩, rfl⟩
        simp [pure, Except.pure]
  | cons r rows ih =>
      rw [List.foldlM_cons]
      constructor
      · intro h
        cases hu : s.pushRow r with
        | error e =>
            rw [hu] at h
            cases h
        | ok u =>
            rw [hu] at h
            obtain ⟨values, hgives, rfl⟩ := pushRow_ok_iff.mp hu
            obtain ⟨pushes, hpushes, rfl⟩ := ih.mp h
            exact ⟨values :: pushes, .cons hgives hpushes, by simp⟩
      · rintro ⟨_, hgives | ⟨hgives, hpushes⟩, rfl⟩
        rw [pushRow_ok_iff.mpr ⟨_, hgives, rfl⟩]
        exact ih.mpr ⟨_, hpushes, by simp⟩

theorem foldlM_pushRow_error_iff : rows.foldlM pushRow s = .error e ↔
    ∃ before r after, rows = before ++ r :: after ∧
      (∀ b ∈ before, ∃ values, b.Gives s.names.length values) ∧ r.RefusedWith s.names.length e := by
  induction rows generalizing s with
  | nil =>
      refine iff_of_false nofun ?_
      rintro ⟨before, r, after, he, -⟩
      exact List.append_ne_nil_of_right_ne_nil before (List.cons_ne_nil r after) he.symm
  | cons r rows ih =>
      rw [List.foldlM_cons]
      cases hu : s.pushRow r with
      | error e' =>
          constructor
          · intro h
            cases h
            exact ⟨[], r, rows, rfl, nofun, pushRow_error_iff.mp hu⟩
          · rintro ⟨before, r', after, he, hbefore, hrefused⟩
            cases before with
            | nil =>
                cases he
                rw [pushRow_error_iff.mpr hrefused] at hu
                cases hu
                rfl
            | cons b before =>
                -- the first row would be taken
                cases he
                obtain ⟨values, hgives⟩ := hbefore r List.mem_cons_self
                rw [pushRow_ok_iff.mpr ⟨values, hgives, rfl⟩] at hu
                cases hu
      | ok u =>
          obtain ⟨values, hgives, rfl⟩ := pushRow_ok_iff.mp hu
          refine ih.trans ⟨?_, ?_⟩
          · rintro ⟨before, r', after, rfl, hbefore, hrefused⟩
            exact ⟨r :: before, r', after, rfl, List.forall_mem_cons.mpr ⟨⟨values, hgives⟩, hbefore⟩,
              hrefused⟩
          · rintro ⟨before, r', after, he, hbefore, hrefused⟩
            cases before with
            | nil =>
                -- the first row is not refused
                cases he
                rw [pushRow_error_iff.mpr hrefused] at hu
                cases hu
            | cons b before =>
                cases he
                exact ⟨before, r', after, rfl, (List.forall_mem_cons.mp hbefore).2, hrefused⟩

/-! ### What a reply is decoded to -/

/-- The names of the first row. -/
def leadingNames (rows : List DriverRow) : List String := (rows.head?.map DriverRow.names).getD []

/-- Whether a decoded row has the value in a place under the name that its own row reports there. -/
def CarriesAt (r : DriverRow) (row : Row) (i : Nat) : Prop :=
  ∀ name values v, r.names[i]? = some name → r.values = .ok values → values[i]? = some v →
    row.get? name = some ⟨name, v⟩

/-- Whether a decoded row holds the values of a driver's row under names that need not be its own: where
both have one name, and the names do not repeat it later, the value stands under that name. -/
structure Relabels (names : List String) (r : DriverRow) (row : Row) : Prop where
  holds : ∃ values, r.Gives names.length values ∧ Holds names values row
  carries : ∀ {i name}, names[i]? = some name → (∀ j, i < j → names[j]? ≠ some name) →
    r.names[i]? = some name → CarriesAt r row i
  carries_all : r.names = names → names.Nodup → ∀ i, CarriesAt r row i

theorem relabels_rowOf {names : List String} {values : List Value} (h : r.Gives names.length values) :
    Relabels names r (rowOf names values) := by
  have hrow := rowOf_holds h.2
  have hcarries {i : Nat} {name : String} (hname : names[i]? = some name)
      (hlast : ∀ j, i < j → names[j]? ≠ some name) (hown : r.names[i]? = some name) :
      CarriesAt r (rowOf names values) i := by
    intro name' values' v hname' hvalues' hv
    obtain rfl : name = name' := Option.some.inj (hown.symm.trans hname')
    obtain rfl : values = values' := Except.ok.inj (h.1.symm.trans hvalues')
    obtain ⟨v', hv', hget⟩ := hrow.get?_of_last hname hlast
    rw [hget, Option.some.inj (hv.symm.trans hv')]
  refine ⟨⟨values, h, hrow⟩, hcarries, ?_⟩
  rintro rfl hnodup i name values' v hown
  refine hcarries hown (fun j hij hj => ?_) hown name values' v hown
  obtain ⟨hi, -⟩ := List.getElem?_eq_some_iff.mp hown
  exact hij.ne ((List.getElem?_inj hi hnodup).mp (hown.trans hj.symm))

/-- **Rows have the names of the first row.**  A reply is refused exactly if one of its rows cannot be read
or is not as wide as the first row's names, with the failure of the first such row.  Else there is one row
for each, in order, with its values under the first row's names: the last of them counts where a name is
repeated, and a value stands under the name that its own row reports if that is the first row's name. -/
theorem decode_ofDriverRows (rows : List DriverRow) :
    (∀ e, ofDriverRows rows = .error e ↔ ∃ before r after, rows = before ++ r :: after ∧
      (∀ b ∈ before, ∃ values, b.Gives (leadingNames rows).length values) ∧
      r.RefusedWith (leadingNames rows).length e) ∧
    ∀ s, ofDriverRows rows = .ok s → s.names = leadingNames rows ∧
      List.Forall₂ (Relabels (leadingNames rows)) rows s.decode := by
  refine ⟨fun e => foldlM_pushRow_error_iff, fun s hs => ?_⟩
  obtain ⟨pushes, hpushes, rfl⟩ := foldlM_pushRow_ok_iff.mp hs
  refine ⟨rfl, List.forall₂_map_right_iff.mpr ?_⟩
  exact hpushes.imp fun r values hgives => relabels_rowOf hgives

/-- Two rows that share different names keep all their values. -/
theorem decode_ofDriverRows_shared :
    ∃ s first second, ofDriverRows [⟨["a", "b"], .ok [.int 1, .int 2]⟩, ⟨["a", "b"], .ok [.int 3, .null]⟩] =
      .ok s ∧ s.decode = [first, second] ∧ first.get? "b" = some ⟨"b", .int 2⟩ ∧
      second.get? "a" = some ⟨"a", .int 3⟩ := by
  have hread : ofDriverRows [⟨["a", "b"], .ok [.int 1, .int 2]⟩, ⟨["a", "b"], .ok [.int 3, .null]⟩] =
      .ok ⟨["a", "b"], [[.int 1, .int 2], [.int 3, .null]]⟩ := rfl
  obtain ⟨-, hrows⟩ := (decode_ofDriverRows
    [⟨["a", "b"], .ok [.int 1, .int 2]⟩, ⟨["a", "b"], .ok [.int 3, .null]⟩]).2 _ hread
  obtain ⟨first, rest, hfirst, hrest, hdecode⟩ := List.forall₂_cons_left_iff.mp hrows
  obtain ⟨second, rest, hsecond, hnil, rfl⟩ := List.forall₂_cons_left_iff.mp hrest
  obtain rfl := List.forall₂_nil_left_iff.mp hnil
  refine ⟨_, first, second, hread, hdecode, ?_, ?_⟩
  · exact hfirst.carries_all rfl (by decide) 1 "b" _ _ rfl rfl rfl
  · exact hsecond.carries_all rfl (by decide) 0 "a" _ _ rfl rfl rfl

/-- A repeated name loses a value, and a second row of other names is taken and has its value under the
first row's name. -/
theorem ofDriverRows_relabels :
    (∃ s row, ofDriverRows [⟨["a", "a"], .ok [.int 1, .int 2]⟩] = .ok s ∧ s.decode = [row] ∧
      ¬ CarriesAt ⟨["a", "a"], .ok [.int 1, .int 2]⟩ row 0) ∧
    ∃ s first second, ofDriverRows [⟨["a"], .ok [.int 1]⟩, ⟨["b"], .ok [.int 2]⟩] = .ok s ∧
      s.decode = [first, second] ∧ second.get? "a" = some ⟨"a", .int 2⟩ ∧
      ¬ CarriesAt ⟨["b"], .ok [.int 2]⟩ second 0 := by
  refine ⟨⟨_, _, rfl, rfl, ?_⟩, _, _, _, rfl, rfl, rfl, ?_⟩
  · intro h
    cases h "a" _ (.int 1) rfl rfl rfl
  · intro h
    cases h "b" _ (.int 2) rfl rfl rfl

end RowSet

end SqlSession
