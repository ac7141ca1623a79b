import Mathlib.Data.List.Nodup
import SqlSession.Proofs.Number.Quantity
import SqlSession.Proofs.Rows.Lookup

/-! # Equality of rows

Two rows are equal exactly if they have the same names and, under each of them, equal values, where doubles
are equal as what they denote (`Value.Equal`).  The check looks only whether the columns of one row are
found in the other; since no row has a name twice, rows of one size then have the same names.  So equality
is symmetric and transitive, does not see the order of columns, and is reflexive on rows without a double
that is not a number (`row_equality`). -/

namespace SqlSession

/-- Equality of values: doubles are equal if they denote one thing, and other values if they are the
same. -/
inductive Value.Equal : Value → Value → Prop
  | float {x y : Double} {q : Double.Quantity} (hx : x.quantity? = some q) (hy : y.quantity? = some q) :
      Equal (.float x) (.float y)
  | exact {v : Value} (hv : ∀ x, v ≠ .float x) : Equal v v

namespace Value

variable {v w u : Value}

theorem same_iff : v.same w = true ↔ v.Equal w := by
  constructor
  · intro h
    unfold same at h
    split at h
    · obtain ⟨q, hx, hy⟩ := Double.same_iff.mp h
      exact .float hx hy
    · rename_i hnone
      obtain rfl := of_decide_eq_true h
      exact .exact fun x hx => hnone x x hx hx
  · rintro (⟨hx, hy⟩ | hv)
    · exact Double.same_iff.mpr ⟨_, hx, hy⟩
    · cases v with
      | float x => exact absurd rfl (hv x)
      | _ => simp [same]

theorem Equal.symm (h : v.Equal w) : w.Equal v := by
  cases h with
  | float hx hy => exact .float hy hx
  | exact hv => exact .exact hv

theorem Equal.trans (h : v.Equal w) (h' : w.Equal u) : v.Equal u := by
  cases h with
  | exact hv => exact h'
  | float hx hy =>
      cases h' with
      | exact hv => exact absurd rfl (hv _)
      | float hy' hz =>
          obtain rfl := Option.some.inj (hy.symm.trans hy')
          exact .float hx hz

theorem equal_self_iff : v.Equal v ↔ ∀ x, v = .float x → x.isNan = false := by
  constructor
  · rintro h x rfl
    rw [← Bool.not_eq_true, ← Double.quantity?_eq_none_iff]
    cases h with
    | float hx => rw [hx]; exact nofun
    | exact hv => exact absurd rfl (hv x)
  · intro h
    cases v with
    | float x =>
        cases hx : x.quantity? with
        | none => exact absurd (h x rfl) (by rw [(Double.quantity?_eq_none_iff x).mp hx]; exact nofun)
        | some q => exact .float hx hx
    | _ => exact .exact nofun

end Value

namespace Row

variable {r r' s t : Row} {name : String} {c : Column}

/-! ### Looking up -/

theorem of_get? (h : r.get? name = some c) : c ∈ r.columns ∧ c.name = name := by
  obtain ⟨i, hi, hc⟩ := Option.bind_eq_some_iff.mp h
  have hname := (r.lookup_index name i).mp hi
  rw [hc] at hname
  exact ⟨List.mem_of_getElem? hc, Option.some.inj hname⟩

theorem get?_of_mem (h : c ∈ r.columns) : r.get? c.name = some c := by
  obtain ⟨i, hi⟩ := List.mem_iff_getElem?.mp h
  have hl : r.index.lookup c.name = some i := (r.lookup_index _ _).mpr (by rw [hi]; rfl)
  rw [get?, hl]
  exact hi

theorem mem_names_iff : name ∈ r.names ↔ ∃ c, r.get? name = some c := by
  constructor
  · intro h
    obtain ⟨c, hc, rfl⟩ := List.mem_map.mp h
    exact ⟨c, get?_of_mem hc⟩
  · rintro ⟨c, hc⟩
    obtain ⟨hmem, rfl⟩ := of_get? hc
    exact List.mem_map_of_mem hmem

theorem get?_ofColumns_eq_some_iff {cs : List Column} (hn : (cs.map Column.name).Nodup) :
    (ofColumns cs).get? name = some c ↔ c ∈ cs ∧ c.name = name := by
  have hmem {d : Column} : d ∈ cs.filter (·.name = name) ↔ d ∈ cs ∧ d.name = name := by
    rw [List.mem_filter, decide_eq_true_eq]
  rw [get?_ofColumns, ← hmem]
  constructor
  · exact List.mem_of_getLast?
  · intro hc
    obtain ⟨d, hd⟩ := Option.ne_none_iff_exists'.mp
      (mt List.getLast?_eq_none_iff.mp (List.ne_nil_of_mem hc))
    obtain ⟨hdcs, hdname⟩ := hmem.mp (List.mem_of_getLast? hd)
    obtain ⟨hccs, hcname⟩ := hmem.mp hc
    rw [hd, List.inj_on_of_nodup_map hn hdcs hccs (hdname.trans hcname.symm)]

/-! ### Equality -/

/-- What the check looks at: the sizes, and the columns of one row found in the other. -/
theorem same_iff_found : r.same s = true ↔ r.size = s.size ∧
    ∀ c ∈ r.columns, ∃ d, s.get? c.name = some d ∧ c.value.Equal d.value := by
  rw [same, Bool.and_eq_true, beq_iff_eq, List.all_eq_true]
  refine and_congr_right fun _ => forall₂_congr fun c _ => ?_
  cases hd : s.get? c.name with
  | none => simp
  | some d =>
      have hname : c.name = d.name := (of_get? hd).2.symm
      simp [Column.same, hname, Value.same_iff]

/-- **Equal rows** have the same names, and equal values under each of them. -/
theorem same_iff : r.same s = true ↔ (∀ n, n ∈ r.names ↔ n ∈ s.names) ∧
    ∀ n c d, r.get? n = some c → s.get? n = some d → c.value.Equal d.value := by
  have hsize (x : Row) : x.names.length = x.size := List.length_map _
  rw [same_iff_found]
  constructor
  · rintro ⟨hlen, hfound⟩
    have hsub : r.names ⊆ s.names := by
      intro n hn
      obtain ⟨c, hc, rfl⟩ := List.mem_map.mp hn
      obtain ⟨d, hd, -⟩ := hfound c hc
      exact mem_names_iff.mpr ⟨d, hd⟩
    -- no name is left over in the other row, which has as many
    have hperm : r.names.Perm s.names :=
      (r.nodup_names.subperm hsub).perm_of_length_le (by rw [hsize, hsize, hlen])
    refine ⟨fun n => hperm.mem_iff, fun n c d hc hd => ?_⟩
    obtain ⟨hmem, rfl⟩ := of_get? hc
    obtain ⟨e, he, heq⟩ := hfound c hmem
    obtain rfl := Option.some.inj (hd.symm.trans he)
    exact heq
  · rintro ⟨hnames, hvalues⟩
    have hperm : r.names.Perm s.names :=
      (List.perm_ext_iff_of_nodup r.nodup_names s.nodup_names).mpr hnames
    refine ⟨by rw [← hsize, ← hsize, hperm.length_eq], fun c hc => ?_⟩
    obtain ⟨d, hd⟩ := mem_names_iff.mp ((hnames c.name).mp (List.mem_map_of_mem hc))
    exact ⟨d, hd, hvalues _ c d (get?_of_mem hc) hd⟩

theorem same_symm (h : r.same s = true) : s.same r = true := by
  obtain ⟨hnames, hvalues⟩ := same_iff.mp h
  exact same_iff.mpr ⟨fun n => (hnames n).symm, fun n c d hc hd => (hvalues n d c hd hc).symm⟩

theorem same_trans (h : r.same s = true) (h' : s.same t = true) : r.same t = true := by
  obtain ⟨hnames, hvalues⟩ := same_iff.mp h
  obtain ⟨hnames', hvalues'⟩ := same_iff.mp h'
  refine same_iff.mpr ⟨fun n => (hnames n).trans (hnames' n), fun n c d hc hd => ?_⟩
  obtain ⟨e, he⟩ := mem_names_iff.mp ((hnames n).mp (mem_names_iff.mpr ⟨c, hc⟩))
  exact (hvalues n c e hc he).trans (hvalues' n e d he hd)

theorem same_self_iff :
    r.same r = true ↔ ∀ c ∈ r.columns, ∀ x, c.value = .float x → x.isNan = false := by
  rw [same_iff]
  constructor
  · rintro ⟨-, hvalues⟩ c hc
    exact Value.equal_self_iff.mp (hvalues _ c c (get?_of_mem hc) (get?_of_mem hc))
  · intro h
    refine ⟨fun n => Iff.rfl, fun n c d hc hd => ?_⟩
    obtain rfl := Option.some.inj (hc.symm.trans hd)
    exact Value.equal_self_iff.mpr (h c (of_get? hc).1)

/-- Equality sees no more of a row than what is found in it. -/
theorem same_congr (h : ∀ n, r.get? n = r'.get? n) (s : Row) : r.same s = r'.same s := by
  rw [Bool.eq_iff_iff, same_iff, same_iff]
  simp only [mem_names_iff, h]

/-- The order of columns of different names is not seen by looking up. -/
theorem get?_ofColumns_of_perm {cs ds : List Column} (hp : cs.Perm ds) (hn : (cs.map Column.name).Nodup)
    (n : String) : (ofColumns cs).get? n = (ofColumns ds).get? n := by
  have hn' : (ds.map Column.name).Nodup := (hp.map Column.name).nodup_iff.mp hn
  refine Option.ext fun c => ?_
  rw [get?_ofColumns_eq_some_iff hn, get?_ofColumns_eq_some_iff hn', hp.mem_iff]

/-- **Equality of rows** is equality of names and, under each name, of values.  It is symmetric and
transitive, it does not depend on the order of the columns that a row is made of if their names are
different, and a row equals itself exactly if it holds no double that is not a number. -/
theorem row_equality :
    (∀ r s : Row, r.same s = true ↔ (∀ n, n ∈ r.names ↔ n ∈ s.names) ∧
      ∀ n c d, r.get? n = some c → s.get? n = some d → c.value.Equal d.value) ∧
    (∀ r s : Row, r.same s = s.same r) ∧
    (∀ r s t : Row, r.same s = true → s.same t = true → r.same t = true) ∧
    (∀ cs ds : List Column, cs.Perm ds → (cs.map Column.name).Nodup → ∀ r : Row,
      (ofColumns cs).same r = (ofColumns ds).same r ∧
      r.same (ofColumns cs) = r.same (ofColumns ds)) ∧
    ∀ r : Row, r.same r = true ↔ ∀ c ∈ r.columns, ∀ x, c.value = .float x → x.isNan = false := by
  have hsymm (r s : Row) : r.same s = s.same r := Bool.eq_iff_iff.mpr ⟨same_symm, same_symm⟩
  refine ⟨fun _ _ => same_iff, hsymm, fun _ _ _ => same_trans, fun cs ds hp hn r => ?_,
    fun _ => same_self_iff⟩
  have hleft := same_congr (get?_ofColumns_of_perm hp hn) r
  exact ⟨hleft, by rw [hsymm, hleft, hsymm]⟩

/-- Rows that differ in the order of columns, in a value that is replaced, and in the sign of a zero. -/
theorem row_equality_zeros :
    let cs : List Column := [⟨"a", .int 1⟩, ⟨"b", .float ⟨0⟩⟩]
    let ds : List Column := [⟨"b", .float ⟨0⟩⟩, ⟨"a", .int 1⟩]
    let s := ofColumns [⟨"b", .null⟩, ⟨"a", .int 1⟩, ⟨"b", .float ⟨0x8000000000000000⟩⟩]
    cs.Perm ds ∧ (cs.map Column.name).Nodup ∧ (ofColumns cs).same s = true ∧
    s.same (ofColumns ds) = true ∧ (ofColumns cs).same (ofColumns ds) = true ∧
    s.same (ofColumns cs) = s.same (ofColumns ds) := by
  intro cs ds s
  have hp : cs.Perm ds := .swap _ _ []
  have hn : (cs.map Column.name).Nodup := by decide
  have hcs : (ofColumns cs).same s = true := by decide
  have hds : s.same (ofColumns ds) = true := by decide
  obtain ⟨-, -, htrans, hperm, -⟩ := row_equality
  exact ⟨hp, hn, hcs, hds, htrans _ _ _ hcs hds, (hperm cs ds hp hn s).2⟩

end Row

end SqlSession
