import SqlSession.Proofs.Rows.Getters
import SqlSession.Proofs.Rows.Lookup

/-! # Required getters

A getter of a column gives nothing of a null alone; of every other value it gives a value of its type, or
a failure that names the column and the type (`get_coerced`).  Since the required form of a getter puts
nulls aside before it coerces, together with missing columns and empty values, it fails for want of a
value exactly if the last column of the name has none, and in all other cases it gives what the
optional form gives (`required_getters`). -/

namespace SqlSession

/-- The name of the type that a getter coerces to, as failures show it. -/
def Getter.typeName : Getter → String
  | int64 => "int64"
  | uint64 => "uint64"
  | float64 => "float64"
  | string => "string"
  | bool => "bool"
  | buffer => "bytes"

/-- What a coercion to a type gives of a column that is not null. -/
inductive Coerced (name type : String) {α : Type} : Except Failure α → Prop
  | value (a : α) : Coerced name type (.ok a)
  | mismatch (found : String) : Coerced name type (.error (.invalidType name type found))

namespace Column

variable {c : Column} {type : String}

/-! ### Coercions -/

theorem orMismatch_coerced {α : Type} (c : Column) (type found : String) (o : Option α) :
    Coerced c.name type (c.orMismatch type found o) := by
  cases o with
  | some a => exact .value a
  | none => exact .mismatch found

theorem textOf_coerced (c : Column) (b : Bytes) (type : String) :
    Coerced c.name type (c.textOf b type) := by
  rw [textOf]
  cases Text.ofUtf8? b with
  | some s => exact .value s
  | none => exact .mismatch _

theorem readText_coerced {α : Type} (c : Column) (read : List Char → Option α) (s type : String) :
    Coerced c.name type (c.readText read s type) := by
  rw [readText]
  cases read (Text.trim s.toList) with
  | some a => exact .value a
  | none => exact .mismatch _

/-- A numeric coercion is one on all kinds of values if it is one on numbers. -/
theorem numeric_coerced {α : Type} {read : List Char → Option α} {ofInt : Int64 → Except Failure α}
    {ofUInt : UInt64 → Except Failure α} {ofFloat : Double → Except Failure α}
    (hint : ∀ i, Coerced c.name type (ofInt i)) (huint : ∀ n, Coerced c.name type (ofUInt n))
    (hfloat : ∀ x, Coerced c.name type (ofFloat x)) (hv : c.value ≠ .null) :
    ∃ x : Except Failure α, Coerced c.name type x ∧
      c.numeric type read ofInt ofUInt ofFloat = x.map some := by
  cases hc : c.value with
  | null => exact absurd hc hv
  | int i => exact ⟨_, hint i, by rw [numeric, hc]⟩
  | uint n => exact ⟨_, huint n, by rw [numeric, hc]⟩
  | float x => exact ⟨_, hfloat x, by rw [numeric, hc]⟩
  | text s => exact ⟨_, c.readText_coerced read s type, numeric_of_text hc⟩
  | bool b => exact ⟨_, .mismatch _, by rw [numeric, hc]; rfl⟩
  | bytes b =>
      cases hb : Text.ofUtf8? b with
      | some s => exact ⟨_, c.readText_coerced read s type, numeric_of_bytes hc hb⟩
      | none =>
          refine ⟨_, .mismatch "non-utf8 bytes", ?_⟩
          simp only [numeric, hc, textOf, hb, bind, Except.bind]
          rfl

theorem int64_coerced (hv : c.value ≠ .null) :
    ∃ x, Coerced c.name "int64" x ∧ c.int64 = x.map some :=
  numeric_coerced .value (fun _ => c.orMismatch_coerced _ _ _) (fun _ => c.orMismatch_coerced _ _ _) hv

theorem uint64_coerced (hv : c.value ≠ .null) :
    ∃ x, Coerced c.name "uint64" x ∧ c.uint64 = x.map some :=
  numeric_coerced (fun _ => c.orMismatch_coerced _ _ _) .value (fun _ => c.orMismatch_coerced _ _ _) hv

theorem float64_coerced (hv : c.value ≠ .null) :
    ∃ x, Coerced c.name "float64" x ∧ c.float64 = x.map some :=
  numeric_coerced (fun _ => .value _) (fun _ => .value _) .value hv

theorem string_coerced (hv : c.value ≠ .null) :
    ∃ x, Coerced c.name "string" x ∧ c.string = x.map some := by
  cases hc : c.value with
  | null => exact absurd hc hv
  | text s => exact ⟨_, .value s, by rw [string, hc]; rfl⟩
  | bytes b => exact ⟨_, c.textOf_coerced b "string", by rw [string, hc]⟩
  | _ => exact ⟨_, .mismatch _, by rw [string, hc]; rfl⟩

/-- A truth value that is not one of its own is that of the integer, and fails when the integer does. -/
theorem bool_coerced (hv : c.value ≠ .null) :
    ∃ x, Coerced c.name "bool" x ∧ c.bool = x.map some := by
  obtain ⟨x, hx, hint⟩ := int64_coerced hv
  cases hc : c.value with
  | null => exact absurd hc hv
  | bool b => exact ⟨_, .value b, by rw [bool, hc]; rfl⟩
  | _ =>
      simp only [bool, hc, hint]
      cases hx with
      | value i => exact ⟨_, .value (i != 0), rfl⟩
      | mismatch found => exact ⟨_, .mismatch _, rfl⟩

theorem buffer_coerced (hv : c.value ≠ .null) :
    ∃ x, Coerced c.name "bytes" x ∧ c.buffer = x.map some := by
  cases hc : c.value with
  | null => exact absurd hc hv
  | bytes b => exact ⟨_, .value b, by rw [buffer, hc]; rfl⟩
  | text s => exact ⟨_, .value (Text.utf8 s), by rw [buffer, hc]; rfl⟩
  | _ => exact ⟨_, .mismatch _, by rw [buffer, hc]; rfl⟩

/-- **No getter gives nothing** of a value that is not null. -/
theorem get_coerced (hv : c.value ≠ .null) : ∀ g : Getter,
    ∃ x : Except Failure g.Result, Coerced c.name g.typeName x ∧ g.get c = x.map some
  | .int64 => int64_coerced hv
  | .uint64 => uint64_coerced hv
  | .float64 => float64_coerced hv
  | .string => string_coerced hv
  | .bool => bool_coerced hv
  | .buffer => buffer_coerced hv

end Column

theorem Value.isEmpty_iff {v : Value} : v.isEmpty = true ↔ v = .null ∨ v = .text "" ∨ v = .bytes [] := by
  cases v <;> simp [isEmpty]

namespace Row

variable {cs : List Column} {name : String} {c : Column}

/-! ### The last column of a name -/

/-- The last column of a name in a list. -/
def LastOf (cs : List Column) (name : String) (c : Column) : Prop :=
  c.name = name ∧ ∃ before after, cs = before ++ c :: after ∧ ∀ d ∈ after, d.name ≠ name

/-- A list of columns has no value under a name: there is no column of that name, or the last one is
null or empty. -/
inductive Lacks (cs : List Column) (name : String) : Prop
  | absent (h : ∀ c ∈ cs, c.name ≠ name)
  | null (h : LastOf cs name ⟨name, .null⟩)
  | text (h : LastOf cs name ⟨name, .text ""⟩)
  | bytes (h : LastOf cs name ⟨name, .bytes []⟩)

theorem get?_ofColumns_eq_none_iff : (ofColumns cs).get? name = none ↔ ∀ c ∈ cs, c.name ≠ name := by
  simp [get?_ofColumns]

theorem get?_ofColumns_iff_lastOf : (ofColumns cs).get? name = some c ↔ LastOf cs name c := by
  rw [get?_ofColumns, List.getLast?_filter, List.find?_eq_some_iff_append, decide_eq_true_eq]
  refine and_congr_right fun _ => ?_
  -- the search goes from the end, so what comes before the column found is what stands after it
  constructor
  · rintro ⟨after, before, hcs, hafter⟩
    refine ⟨before.reverse, after.reverse, ?_, fun d hd => ?_⟩
    · rw [← List.reverse_reverse cs, hcs]
      simp
    · simpa using hafter d (List.mem_reverse.mp hd)
  · rintro ⟨before, after, rfl, hafter⟩
    refine ⟨after.reverse, before.reverse, by simp, fun d hd => ?_⟩
    simpa using hafter d (List.mem_reverse.mp hd)

/-- A list lacks a name exactly if what its row finds under the name, if anything, is empty. -/
theorem lacks_iff : Lacks cs name ↔
    ∀ c, (ofColumns cs).get? name = some c → c.value.isEmpty = true := by
  constructor
  · intro h c hc
    have hlast {v : Value} (h : LastOf cs name ⟨name, v⟩) : c.value = v := by
      rw [← get?_ofColumns_iff_lastOf, hc] at h
      rw [Option.some.inj h]
    rw [Value.isEmpty_iff]
    cases h with
    | absent h =>
        rw [get?_ofColumns_eq_none_iff.mpr h] at hc
        cases hc
    | null h => exact .inl (hlast h)
    | text h => exact .inr (.inl (hlast h))
    | bytes h => exact .inr (.inr (hlast h))
  · intro h
    cases hc : (ofColumns cs).get? name with
    | none => exact .absent (get?_ofColumns_eq_none_iff.mp hc)
    | some c =>
        have hempty := Value.isEmpty_iff.mp (h c hc)
        obtain ⟨n, v⟩ := c
        have hlast := get?_ofColumns_iff_lastOf.mp hc
        obtain rfl : n = name := hlast.1
        obtain rfl | rfl | rfl := hempty
        · exact .null hlast
        · exact .text hlast
        · exact .bytes hlast

instance : Decidable (Lacks cs name) :=
  decidable_of_iff (((ofColumns cs).get? name).all (·.value.isEmpty) = true)
    (by rw [lacks_iff, Option.all_eq_true])

/-! ### Required getters -/

theorem required_of_lacks (h : Lacks cs name) (getter : Column → Except Failure (Option α)) :
    (ofColumns cs).required name getter = .error (.requiredEmpty name) := by
  cases hc : (ofColumns cs).get? name with
  | none => rw [required, hc, Option.filter_none]
  | some c => exact required_of_isEmpty hc (lacks_iff.mp h c hc) getter

/-- Where a value is not lacking, both forms of a getter give what it coerces to. -/
theorem coerced_of_not_lacks (h : ¬ Lacks cs name) (g : Getter) :
    ∃ x : Except Failure g.Result, Coerced name g.typeName x ∧
      (ofColumns cs).optional name g.get = x.map some ∧ (ofColumns cs).required name g.get = x := by
  simp only [lacks_iff, not_forall, Bool.not_eq_true] at h
  obtain ⟨c, hc, he⟩ := h
  -- a null would be empty
  have hv : c.value ≠ .null := by
    intro hnull
    rw [hnull] at he
    cases he
  obtain ⟨x, hx, hget⟩ := Column.get_coerced hv g
  rw [(get?_ofColumns_iff_lastOf.mp hc).1] at hx
  have hopt : (ofColumns cs).optional name g.get = g.get c := by rw [optional, hc]
  exact ⟨x, hx, hopt.trans hget, required_of_get hc he hget⟩

/-- **Required getters.**  On the row of any columns the required form of each getter fails for want of a
value exactly if the last column of the name is absent, null, or empty.  Otherwise the optional form gives
a value, or the mismatch of the column with the getter's type, and the required form gives the same. -/
theorem required_getters (cs : List Column) (name : String) (g : Getter) :
    ((ofColumns cs).required name g.get = .error (.requiredEmpty name) ↔ Lacks cs name) ∧
    (¬ Lacks cs name →
      (∃ a, (ofColumns cs).optional name g.get = .ok (some a) ∧
        (ofColumns cs).required name g.get = .ok a) ∨
      ∃ found, (ofColumns cs).optional name g.get = .error (.invalidType name g.typeName found) ∧
        (ofColumns cs).required name g.get = .error (.invalidType name g.typeName found)) := by
  refine ⟨⟨fun hr => ?_, fun h => required_of_lacks h g.get⟩, fun h => ?_⟩
  · by_contra h
    obtain ⟨x, hx, -, hreq⟩ := coerced_of_not_lacks h g
    rw [hr] at hreq
    subst hreq
    cases hx
  · obtain ⟨x, hx, hopt, hreq⟩ := coerced_of_not_lacks h g
    rw [hopt, hreq]
    cases hx with
    | value a => exact .inl ⟨a, rfl, rfl⟩
    | mismatch found => exact .inr ⟨found, rfl, rfl⟩

/-- Octets that replace a null are coerced, well or not, and an empty text that replaces a number is
missing. -/
theorem required_getters_replaced :
    let cs : List Column := [⟨"n", .null⟩, ⟨"m", .int 3⟩, ⟨"n", .bytes (Text.utf8 "-7")⟩, ⟨"m", .text ""⟩]
    let r := ofColumns cs
    let e := Failure.invalidType "n" "uint64" ("string " ++ Text.quoted "-7")
    ¬ Lacks cs "n" ∧
    r.optional "n" Column.int64 = .ok (some (-7)) ∧ r.required "n" Column.int64 = .ok (-7) ∧
    r.optional "n" Column.uint64 = .error e ∧ r.required "n" Column.uint64 = .error e ∧
    Lacks cs "m" ∧ r.required "m" Column.int64 = .error (.requiredEmpty "m") := by
  intro cs r e
  have hn : ¬ Lacks cs "n" := by decide
  have hm : Lacks cs "m" := by decide
  have hint : r.optional "n" Column.int64 = .ok (some (-7)) := rfl
  have huint : r.optional "n" Column.uint64 = .error e := rfl
  refine ⟨hn, hint, ?_, huint, ?_, hm, (required_getters cs "m" .int64).1.mpr hm⟩
  · obtain ⟨i, hopt, hreq⟩ | ⟨found, hopt, -⟩ := (required_getters cs "n" .int64).2 hn
    · obtain rfl := Option.some.inj (Except.ok.inj (hint.symm.trans hopt))
      exact hreq
    · cases hint.symm.trans hopt
  · obtain ⟨n, hopt, -⟩ | ⟨found, hopt, hreq⟩ := (required_getters cs "n" .uint64).2 hn
    · cases huint.symm.trans hopt
    · rw [Except.error.inj (huint.symm.trans hopt)]
      exact hreq

end Row

end SqlSession
