import SqlSession.Proofs.Number.Integral
import SqlSession.Proofs.Number.Numeral
import SqlSession.Proofs.Rows.Getters

/-! # Integers from columns

Which integer a value denotes is said without the coercions: by its kind, by the bits of a double, by the
digits of a text (`Value.Denotes`).  A double is taken by its fraction, its comparison with rounded bounds
and a cast, which comes to the integer that it denotes (`map_toInt64`, `map_toUInt64`).  The two integer
getters of a column return exactly that integer if it is in the range of their type, and fail on everything
else but null (`integers_exact`). -/

namespace SqlSession

/-- Whether a value denotes an integer.  Text does if it spells one, and so do the octets of such a text;
a minus sign counts as one only if the integer is to be `signed`. -/
inductive Value.Denotes (signed : Bool) : Value → Int → Prop
  | int (i : Int64) : Denotes signed (.int i) i.toInt
  | uint (n : UInt64) : Denotes signed (.uint n) n.toNat
  | float {x : Double} {z : Int} (h : x.quantity? = some (.finite z)) : Denotes signed (.float x) z
  | text {s : String} {z : Int} (h : Number.Spells signed s.toList z) : Denotes signed (.text s) z
  | bytes {s : String} {z : Int} (h : Number.Spells signed s.toList z) :
      Denotes signed (.bytes (Text.utf8 s)) z

namespace Value

variable {signed : Bool} {v : Value} {z : Int}

/-- The integer that a value denotes. -/
def integer? (signed : Bool) : Value → Option Int
  | null => none
  | int i => some i.toInt
  | uint n => some n.toNat
  | float x => x.toInt?
  | text s => Number.numeral? signed (Text.trim s.toList)
  | bytes b => (Text.ofUtf8? b).bind fun s => Number.numeral? signed (Text.trim s.toList)
  | bool _ => none

theorem integer?_eq_some_iff : v.integer? signed = some z ↔ v.Denotes signed z := by
  have hspells (s : String) : Number.numeral? signed (Text.trim s.toList) = some z ↔
      Number.Spells signed s.toList z := by
    rw [Number.numeral?_eq_some_iff, Number.spells_iff]
  constructor
  · intro h
    cases v with
    | null => cases h
    | bool b => cases h
    | int i =>
        obtain rfl := Option.some.inj h
        exact .int i
    | uint n =>
        obtain rfl := Option.some.inj h
        exact .uint n
    | float x => exact .float (Double.toInt?_eq_some_iff.mp h)
    | text s => exact .text ((hspells s).mp h)
    | bytes b =>
        obtain ⟨s, hb, hs⟩ := Option.bind_eq_some_iff.mp h
        obtain rfl := Text.ofUtf8?_eq_some_iff.mp hb
        exact .bytes ((hspells s).mp hs)
  · intro h
    cases h with
    | int i => rfl
    | uint n => rfl
    | float h => exact Double.toInt?_eq_some_iff.mpr h
    | text h => exact (hspells _).mpr h
    | bytes h => exact Option.bind_eq_some_iff.mpr ⟨_, Text.ofUtf8?_eq_some_iff.mpr rfl, (hspells _).mpr h⟩

theorem Denotes.unique {z' : Int} (h : v.Denotes signed z) (h' : v.Denotes signed z') : z = z' :=
  Option.some.inj ((integer?_eq_some_iff.mpr h).symm.trans (integer?_eq_some_iff.mpr h'))

theorem Denotes.of_unsigned (h : v.Denotes false z) : v.Denotes true z := by
  have hspells {s : List Char} : Number.Spells false s z → Number.Spells true s z :=
    fun ⟨before, numeral, after, hs, hb, ha, hn⟩ =>
      ⟨before, numeral, after, hs, hb, ha, hn.of_unsigned⟩
  cases h with
  | int i => exact .int i
  | uint n => exact .uint n
  | float h => exact .float h
  | text h => exact .text (hspells h)
  | bytes h => exact .bytes (hspells h)

end Value

namespace Column

/-! ### Doubles -/

section

variable {low high x : Double} {l h : Int}

/-- The doubles with nothing after the point are the integers, and the bounds are bounds of these. -/
theorem integral?_eq_some_iff {y : Double} (hl : low.quantity? = some (.finite l))
    (hh : high.quantity? = some (.finite h)) : integral? low high x = some y ↔
      x = y ∧ ∃ z : Int, x.quantity? = some (.finite z) ∧ l ≤ z ∧ z < h := by
  rw [integral?, Option.ite_none_right_eq_some, Option.some.injEq, and_comm, Bool.and_eq_true,
    Bool.and_eq_true, Double.fraction?_same_zero_iff, and_assoc]
  refine and_congr_right fun _ => ⟨?_, ?_⟩
  · rintro ⟨⟨z, hz⟩, hlow, hhigh⟩
    rw [Double.le_iff hl hz, Int.cast_le] at hlow
    rw [Double.lt_iff hz hh, Int.cast_lt] at hhigh
    exact ⟨z, hz, hlow, hhigh⟩
  · rintro ⟨z, hz, hlow, hhigh⟩
    rw [Double.le_iff hl hz, Double.lt_iff hz hh, Int.cast_le, Int.cast_lt]
    exact ⟨⟨z, hz⟩, hlow, hhigh⟩

theorem map_integral? {word? : Int → Option α} {cast : Double → α}
    (hl : low.quantity? = some (.finite l)) (hh : high.quantity? = some (.finite h))
    (hcast : ∀ z : Int, x.quantity? = some (.finite z) → l ≤ z → z < h → word? z = some (cast x))
    (hrange : ∀ z a, word? z = some a → l ≤ z ∧ z < h) :
    (integral? low high x).map cast = x.toInt?.bind word? := by
  ext a
  rw [Option.map_eq_some_iff, Option.bind_eq_some_iff]
  simp only [integral?_eq_some_iff hl hh, Double.toInt?_eq_some_iff]
  constructor
  · rintro ⟨_, ⟨rfl, z, hz, hlow, hhigh⟩, rfl⟩
    exact ⟨z, hz, hcast z hz hlow hhigh⟩
  · rintro ⟨z, hz, ha⟩
    obtain ⟨hlow, hhigh⟩ := hrange z a ha
    exact ⟨x, ⟨rfl, z, hz, hlow, hhigh⟩, Option.some.inj ((hcast z hz hlow hhigh).symm.trans ha)⟩

theorem map_toInt64 (x : Double) :
    (integral? (.ofInt Int64.minValue.toInt) (.ofInt Int64.maxValue.toInt) x).map Double.toInt64 =
      x.toInt?.bind Number.toInt64? := by
  have hleast : (Double.ofInt Int64.minValue.toInt).toInt? = some (-2 ^ 63) := rfl
  -- rounded up, the greatest word is the first integer that does not fit
  have hgreatest : (Double.ofInt Int64.maxValue.toInt).toInt? = some (2 ^ 63) := rfl
  rw [Double.toInt?_eq_some_iff] at hleast hgreatest
  refine map_integral? hleast hgreatest (fun z hz hlow hhigh => ?_) fun z i hi => ?_
  · have hclamped : x.clamped (-2 ^ 63) (2 ^ 63 - 1) = z := Double.clamped_eq hz hlow (by omega)
    refine Number.toInt64?_eq_some_iff.mpr ?_
    exact (congrArg (fun z => (Int64.ofInt z).toInt) hclamped).trans
      (Int64.toInt_ofInt_of_le hlow hhigh)
  · obtain rfl := Number.toInt64?_eq_some_iff.mp hi
    exact ⟨i.le_toInt, i.toInt_lt⟩

theorem map_toUInt64 (x : Double) :
    (integral? .zero (.ofInt (UInt64.size - 1 : Nat)) x).map Double.toUInt64 =
      x.toInt?.bind Number.toUInt64? := by
  have hleast : Double.zero.quantity? = some (.finite (0 : Int)) := by
    rw [Int.cast_zero, Double.quantity?_zero]
  have hgreatest : (Double.ofInt (UInt64.size - 1 : Nat)).toInt? = some (2 ^ 64) := rfl
  rw [Double.toInt?_eq_some_iff] at hgreatest
  refine map_integral? hleast hgreatest (fun z hz hlow hhigh => ?_) fun z n hn => ?_
  · have hclamped : x.clamped 0 (2 ^ 64 - 1) = z := Double.clamped_eq hz hlow (by omega)
    obtain ⟨n, rfl⟩ := Int.eq_ofNat_of_zero_le hlow
    have hn : n < UInt64.size := by
      simp only [UInt64.size]
      omega
    refine Number.toUInt64?_eq_some_iff.mpr ?_
    exact (congrArg (fun z => ((UInt64.ofNat z.toNat).toNat : Int)) hclamped).trans
      (congrArg Nat.cast (UInt64.toNat_ofNat_of_lt' hn))
  · obtain rfl := Number.toUInt64?_eq_some_iff.mp hn
    exact ⟨Int.natCast_nonneg _, by exact_mod_cast n.toNat_lt⟩

end

/-! ### Exactness -/

/-- What an exact getter returns of a column: nothing for a null, the integer that the value denotes if it
lies from `low` up to `high`, and otherwise a failure that names the column. -/
structure Exact (c : Column) (expected : String) (signed : Bool) (low high : Int) (number : α → Int)
    (r : Except Failure (Option α)) : Prop where
  none_iff : r = .ok none ↔ c.value = .null
  some_iff : ∀ z, (∃ a, r = .ok (some a) ∧ number a = z) ↔
    c.value.Denotes signed z ∧ low ≤ z ∧ z < high
  error_iff : (∃ found, r = .error (.invalidType c.name expected found)) ↔
    c.value ≠ .null ∧ ∀ z, c.value.Denotes signed z → ¬ (low ≤ z ∧ z < high)

section

variable {c : Column} {expected : String} {signed : Bool} {word? : Int → Option α}
  {read : List Char → Option α} {ofInt : Int64 → Except Failure α} {ofUInt : UInt64 → Except Failure α}
  {ofFloat : Double → Except Failure α}

theorem readText_eq (c : Column) (expected : String)
    (hread : ∀ s, read s = (Number.numeral? signed s).bind word?) (s : String) :
    ∃ found, c.readText read s expected =
      c.orMismatch expected found ((Number.numeral? signed (Text.trim s.toList)).bind word?) := by
  rw [readText, hread]
  cases (Number.numeral? signed (Text.trim s.toList)).bind word? with
  | some a => exact ⟨"", rfl⟩
  | none => exact ⟨_, rfl⟩

/-- A numeric coercion whose parts all go by one way from integers into words takes the integer that the
value denotes that way. -/
theorem numeric_eq
    (hread : ∀ s, read s = (Number.numeral? signed s).bind word?)
    (hint : ∀ i, ∃ found, ofInt i = c.orMismatch expected found (word? i.toInt))
    (huint : ∀ n, ∃ found, ofUInt n = c.orMismatch expected found (word? n.toNat))
    (hfloat : ∀ x, ∃ found, ofFloat x = c.orMismatch expected found (x.toInt?.bind word?))
    (hv : c.value ≠ .null) : ∃ found, c.numeric expected read ofInt ofUInt ofFloat =
      (c.orMismatch expected found ((c.value.integer? signed).bind word?)).map some := by
  cases hc : c.value with
  | null => exact absurd hc hv
  | int i =>
      obtain ⟨found, e⟩ := hint i
      exact ⟨found, by rw [numeric, hc, Value.integer?, Option.bind_some, ← e]⟩
  | uint n =>
      obtain ⟨found, e⟩ := huint n
      exact ⟨found, by rw [numeric, hc, Value.integer?, Option.bind_some, ← e]⟩
  | float x =>
      obtain ⟨found, e⟩ := hfloat x
      exact ⟨found, by rw [numeric, hc, Value.integer?, ← e]⟩
  | text s =>
      obtain ⟨found, e⟩ := readText_eq c expected hread s
      exact ⟨found, by rw [numeric, hc, Value.integer?, ← e]⟩
  | bool b => exact ⟨_, by rw [numeric, hc]; rfl⟩
  | bytes b =>
      cases hb : Text.ofUtf8? b with
      | none =>
          refine ⟨"non-utf8 bytes", ?_⟩
          simp only [numeric, hc, textOf, hb, Value.integer?, bind, Except.bind]
          rfl
      | some s =>
          obtain ⟨found, e⟩ := readText_eq c expected hread s
          exact ⟨found, by rw [numeric_of_bytes hc hb, Value.integer?, hb, Option.bind_some, ← e]⟩

/-- Taking the integer of a value into words is exact if the words are the integers from `low` up to
`high`. -/
theorem exact_of_eq {low high : Int} {number : α → Int} {r : Except Failure (Option α)}
    (hword : ∀ {z a}, word? z = some a ↔ number a = z)
    (hrange : ∀ {z}, (∃ a, number a = z) ↔ low ≤ z ∧ z < high)
    (hnull : c.value = .null → r = .ok none)
    (hr : c.value ≠ .null → ∃ found, r =
      (c.orMismatch expected found ((c.value.integer? signed).bind word?)).map some) :
    c.Exact expected signed low high number r := by
  by_cases hv : c.value = .null
  · have hnone (z : Int) : ¬ c.value.Denotes signed z := by
      rw [hv]
      exact nofun
    rw [hnull hv]
    exact ⟨⟨fun _ => hv, fun _ => rfl⟩, fun z => ⟨nofun, fun h => absurd h.1 (hnone z)⟩,
      ⟨nofun, fun h => absurd hv h.1⟩⟩
  obtain ⟨found, rfl⟩ := hr hv
  cases hz : (c.value.integer? signed).bind word? with
  | some a =>
      -- the value denotes the integer of this word
      obtain ⟨z, hi, hw⟩ := Option.bind_eq_some_iff.mp hz
      have hd := Value.integer?_eq_some_iff.mp hi
      have hin := hrange.mp ⟨a, hword.mp hw⟩
      refine ⟨⟨nofun, fun h => absurd h hv⟩, fun y => ⟨?_, ?_⟩, ⟨nofun, fun h => absurd hin (h.2 z hd)⟩⟩
      · rintro ⟨b, hb, rfl⟩
        obtain rfl : a = b := Option.some.inj (Except.ok.inj hb)
        rw [hword.mp hw]
        exact ⟨hd, hin⟩
      · rintro ⟨hy, -⟩
        exact ⟨a, rfl, (hword.mp hw).trans (hd.unique hy)⟩
  | none =>
      have hout (z : Int) (hd : c.value.Denotes signed z) : ¬ (low ≤ z ∧ z < high) := by
        rintro hin
        obtain ⟨a, ha⟩ := hrange.mpr hin
        rw [Value.integer?_eq_some_iff.mpr hd, Option.bind_some, hword.mpr ha] at hz
        cases hz
      exact ⟨⟨nofun, fun h => absurd h hv⟩, fun z => ⟨nofun, fun h => absurd h.2 (hout z h.1)⟩,
        ⟨fun _ => ⟨hv, hout⟩, fun _ => ⟨found, rfl⟩⟩⟩

end

theorem exact_int64 (c : Column) : c.Exact "int64" true (-2 ^ 63) (2 ^ 63) Int64.toInt c.int64 := by
  refine exact_of_eq Number.toInt64?_eq_some_iff ?_ numeric_of_null fun hv =>
    numeric_eq (fun _ => rfl) (fun i => ⟨"", ?_⟩) (fun n => ⟨_, rfl⟩)
      (fun x => ⟨_, by rw [map_toInt64]⟩) hv
  · intro z
    constructor
    · rintro ⟨i, rfl⟩
      exact ⟨i.le_toInt, i.toInt_lt⟩
    · rintro ⟨hl, hh⟩
      exact ⟨Int64.ofInt z, Int64.toInt_ofInt_of_le hl hh⟩
  · rw [Number.toInt64?_eq_some_iff.mpr rfl]
    rfl

theorem exact_uint64 (c : Column) : c.Exact "uint64" false 0 (2 ^ 64) (fun n => n.toNat) c.uint64 := by
  refine exact_of_eq Number.toUInt64?_eq_some_iff ?_ numeric_of_null fun hv =>
    numeric_eq (fun s => ?_) (fun i => ⟨_, rfl⟩) (fun n => ⟨"", ?_⟩)
      (fun x => ⟨_, by rw [map_toUInt64]⟩) hv
  · intro z
    constructor
    · rintro ⟨n, rfl⟩
      exact ⟨Int.natCast_nonneg _, by exact_mod_cast n.toNat_lt⟩
    · rintro ⟨hl, hh⟩
      obtain ⟨n, rfl⟩ := Int.eq_ofNat_of_zero_le hl
      exact ⟨UInt64.ofNat n, congrArg Nat.cast (UInt64.toNat_ofNat_of_lt' (by exact_mod_cast hh))⟩
  · rw [Number.uint64?, Number.numeral?]
    cases Number.unsigned? s <;> rfl
  · rw [Number.toUInt64?_eq_some_iff.mpr rfl]
    rfl

/-- **Integers from columns are exact.**  Of every column both integer getters return the integer that its
value denotes if it is in the range of the getter's type, nothing of a null, and otherwise a failure that
names the column.  So they agree whenever both return a number. -/
theorem integers_exact (c : Column) :
    c.Exact "int64" true (-2 ^ 63) (2 ^ 63) Int64.toInt c.int64 ∧
    c.Exact "uint64" false 0 (2 ^ 64) (fun n => n.toNat) c.uint64 ∧
    ∀ i n, c.int64 = .ok (some i) → c.uint64 = .ok (some n) → i.toInt = n.toNat := by
  refine ⟨c.exact_int64, c.exact_uint64, fun i n hi hn => ?_⟩
  obtain ⟨hsigned, -⟩ := (c.exact_int64.some_iff _).mp ⟨i, hi, rfl⟩
  obtain ⟨hunsigned, -⟩ := (c.exact_uint64.some_iff _).mp ⟨n, hn, rfl⟩
  exact hsigned.unique hunsigned.of_unsigned

/-- Both getters read the octets of a numeral between a space and a wide one. -/
theorem integers_exact_octets :
    let c : Column := ⟨"n", .bytes (Text.utf8 " +42\u3000")⟩
    c.int64 = .ok (some 42) ∧ c.uint64 = .ok (some 42) ∧ c.value.Denotes true 42 ∧
      c.value.Denotes false 42 ∧ (42 : Int64).toInt = (42 : UInt64).toNat := by
  intro c
  obtain ⟨hsigned, hunsigned, hagree⟩ := integers_exact c
  have hi : c.int64 = .ok (some 42) := rfl
  have hn : c.uint64 = .ok (some 42) := rfl
  exact ⟨hi, hn, ((hsigned.some_iff 42).mp ⟨42, hi, rfl⟩).1, ((hunsigned.some_iff 42).mp ⟨42, hn, rfl⟩).1,
    hagree 42 42 hi hn⟩

-- The double 2 ^ 63 is an integer, and the first one that does not fit a signed word.
example : (⟨"x", .float ⟨0x43E0000000000000⟩⟩ : Column).int64 =
    .error (.invalidType "x" "int64" "non-integral float64") := rfl
example : (⟨"x", .float ⟨0x43E0000000000000⟩⟩ : Column).uint64 = .ok (some 9223372036854775808) := rfl

end Column

end SqlSession
