import Mathlib.Algebra.Order.Field.Power
import Mathlib.Data.Rat.Cast.Order
import Mathlib.Tactic.Linarith
import Mathlib.Tactic.Positivity
import Mathlib.Tactic.Ring
import SqlSession.Number.Double

/-! # What doubles denote

The 64 bits of a double are a sign, an exponent and a fraction, and denote a rational number, an infinity,
or nothing (`quantity?`).  A double is read as an integer exactly if it denotes that integer
(`toInt?_eq_some_iff`), and two doubles are equal exactly if they denote one thing (`same_iff`). -/

namespace SqlSession.Double

/-- What a double can denote. -/
inductive Quantity where
  | finite (q : ℚ)
  | infinite (negative : Bool)

/-! ### Fields -/

/-- The eleven bits of the exponent. -/
def exponent (x : Double) : Nat := x.bits.toNat / 2 ^ 52 % 2 ^ 11

/-- The 52 bits of the fraction. -/
def fraction (x : Double) : Nat := x.bits.toNat % 2 ^ 52

/-- The fraction with its leading bit, which is one unless the exponent is the least. -/
def significand (x : Double) : Nat := if x.exponent = 0 then x.fraction else 2 ^ 52 + x.fraction

/-- The power of two that the last bit of the significand counts. -/
def unit (x : Double) : ℚ := 2 ^ (((max x.exponent 1 : Nat) : Int) - 1075)

/-- What the bits of a double denote, if anything. -/
def quantity? (x : Double) : Option Quantity :=
  if x.exponent = 2047 then if x.fraction = 0 then some (.infinite x.negative) else none
  else some (.finite ((if x.negative then -1 else 1) * (x.significand * x.unit)))

theorem fraction_lt (x : Double) : x.fraction < 2 ^ 52 := Nat.mod_lt _ (by norm_num)

theorem exponent_lt (x : Double) : x.exponent < 2 ^ 11 := Nat.mod_lt _ (by norm_num)

theorem magnitude_eq (x : Double) : x.magnitude = x.exponent * 2 ^ 52 + x.fraction := by
  have hw : signWeight = 2 ^ 63 := rfl
  simp only [magnitude, exponent, fraction, hw]
  omega

theorem infinity_eq : Number.BinaryFormat.double.infinity = 2047 * 2 ^ 52 := rfl

theorem exponentField_magnitude (x : Double) :
    Number.BinaryFormat.double.exponentField x.magnitude = x.exponent := by
  have hf := x.fraction_lt
  have hp : Nat.pow 2 Number.BinaryFormat.double.fractionBits = 2 ^ 52 := rfl
  rw [Number.BinaryFormat.exponentField, hp, magnitude_eq]
  omega

theorem coefficient_magnitude (x : Double) :
    Number.BinaryFormat.double.coefficient x.magnitude = x.significand := by
  have hf := x.fraction_lt
  have hp : Nat.pow 2 Number.BinaryFormat.double.fractionBits = 2 ^ 52 := rfl
  rw [Number.BinaryFormat.coefficient, exponentField_magnitude, hp, magnitude_eq, significand]
  split <;> omega

theorem scale_magnitude (x : Double) :
    Number.BinaryFormat.double.scale x.magnitude = ((max x.exponent 1 : Nat) : Int) - 1075 := by
  have hl : Number.BinaryFormat.double.leastExponent = -1074 := rfl
  rw [Number.BinaryFormat.scale, exponentField_magnitude, hl]
  omega

theorem isNan_iff (x : Double) : x.isNan = true ↔ x.exponent = 2047 ∧ x.fraction ≠ 0 := by
  have hf := x.fraction_lt
  have he := x.exponent_lt
  rw [isNan, infinity_eq, magnitude_eq, decide_eq_true_eq]
  omega

theorem quantity?_eq_none_iff (x : Double) : x.quantity? = none ↔ x.isNan = true := by
  rw [isNan_iff, quantity?]
  split
  · rename_i he
    split <;> simp_all
  · rename_i he
    simp [he]

theorem quantity?_eq_infinite_iff {x : Double} {negative : Bool} :
    x.quantity? = some (.infinite negative) ↔
      x.exponent = 2047 ∧ x.fraction = 0 ∧ x.negative = negative := by
  rw [quantity?]
  by_cases he : x.exponent = 2047
  · by_cases hf : x.fraction = 0 <;> simp [he, hf]
  · simp [he]

theorem quantity?_eq_finite_iff {x : Double} {q : ℚ} :
    x.quantity? = some (.finite q) ↔
      x.exponent ≠ 2047 ∧ (if x.negative then -1 else 1) * (x.significand * x.unit) = q := by
  rw [quantity?]
  by_cases he : x.exponent = 2047
  · by_cases hf : x.fraction = 0 <;> simp [he, hf]
  · rw [if_neg he]
    simp [he]

/-! ### Integers -/

/-- The view of a double by its fields. -/
theorem view_eq (x : Double) : x.view =
    if x.exponent = 2047 then if x.fraction = 0 then .infinite x.negative else .nan
    else .finite x.negative x.significand (((max x.exponent 1 : Nat) : Int) - 1075) := by
  have hf := x.fraction_lt
  have he := x.exponent_lt
  rw [view, infinity_eq, coefficient_magnitude, scale_magnitude, magnitude_eq]
  by_cases hx : x.exponent = 2047
  · by_cases hz : x.fraction = 0
    · rw [if_neg (by omega), if_pos (by omega), if_pos hx, if_pos hz]
    · rw [if_pos (by omega), if_pos hx, if_neg hz]
  · rw [if_neg (by omega), if_neg (by omega), if_neg hx]

/-- A multiple of a power of two that is a natural number. -/
theorem natOf_eq_some_iff (c n : Nat) (e : Int) :
    (if 0 ≤ e then some (c * Nat.pow 2 e.toNat)
      else if c % Nat.pow 2 (-e).toNat = 0 then some (c / Nat.pow 2 (-e).toNat) else none) = some n ↔
    (c : ℚ) * 2 ^ e = n := by
  by_cases h : 0 ≤ e
  · obtain ⟨k, rfl⟩ := Int.eq_ofNat_of_zero_le h
    have hq : (c : ℚ) * 2 ^ (k : Int) = (c * 2 ^ k : Nat) := by push_cast; rfl
    rw [if_pos h, hq, Nat.cast_inj]
    simp
  · obtain ⟨k, rfl⟩ : ∃ k : Nat, e = -k := ⟨(-e).toNat, by omega⟩
    have hpos : (0 : ℚ) < 2 ^ k := by positivity
    have hq : (c : ℚ) * 2 ^ (-(k : Int)) = n ↔ c = n * 2 ^ k := by
      rw [zpow_neg, zpow_natCast, ← div_eq_mul_inv, div_eq_iff hpos.ne']
      exact_mod_cast Iff.rfl
    have hp : Nat.pow 2 (-(-(k : Int))).toNat = 2 ^ k := by simp
    rw [if_neg h, hq, hp]
    constructor
    · intro hn
      split at hn
      · rename_i hdvd
        rw [← Option.some.inj hn]
        exact (Nat.div_mul_cancel (Nat.dvd_of_mod_eq_zero hdvd)).symm
      · cases hn
    · rintro rfl
      rw [if_pos (Nat.mul_mod_left n _), Nat.mul_div_cancel n (by positivity)]

theorem exists_natCast_iff {q : ℚ} (hq : 0 ≤ q) {i : Int} :
    (∃ n : Nat, q = n ∧ (n : Int) = i) ↔ q = i := by
  constructor
  · rintro ⟨n, rfl, rfl⟩
    exact (Int.cast_natCast n).symm
  · rintro rfl
    obtain ⟨n, rfl⟩ := Int.eq_ofNat_of_zero_le (Int.cast_nonneg_iff.mp hq)
    exact ⟨n, Int.cast_natCast n, rfl⟩

theorem unit_pos (x : Double) : 0 < x.unit := by
  unfold unit
  positivity

/-- **A double is read as the integer that it denotes**, and as none if it denotes none. -/
theorem toInt?_eq_some_iff {x : Double} {i : Int} :
    x.toInt? = some i ↔ x.quantity? = some (.finite i) := by
  rw [toInt?, view_eq, quantity?_eq_finite_iff]
  by_cases he : x.exponent = 2047
  · by_cases hf : x.fraction = 0 <;> simp [he, hf]
  have hq : 0 ≤ (x.significand : ℚ) * x.unit := mul_nonneg (Nat.cast_nonneg _) x.unit_pos.le
  have hunit : (2 : ℚ) ^ (((max x.exponent 1 : Nat) : Int) - 1075) = x.unit := rfl
  rw [if_neg he, and_iff_right he]
  simp only [Option.map_eq_some_iff, natOf_eq_some_iff, hunit]
  cases x.negative with
  | false => simpa using exists_natCast_iff hq
  | true => simpa [neg_eq_iff_eq_neg] using exists_natCast_iff hq (i := -i)

/-! ### Equality -/

theorem significand_lt (x : Double) : x.significand < 2 ^ 53 := by
  have hf := x.fraction_lt
  rw [significand]
  split <;> omega

/-- Of two magnitudes the one with the larger exponent is larger. -/
theorem magnitude_lt_of_exponent_lt {x y : Double} (h : max x.exponent 1 < max y.exponent 1) :
    (x.significand : ℚ) * x.unit < y.significand * y.unit := by
  obtain ⟨k, hk⟩ := Nat.exists_eq_add_of_lt h
  have hy : 2 ^ 52 ≤ y.significand := by
    rw [significand, if_neg (by omega)]
    exact Nat.le_add_right _ _
  have hunit : y.unit = x.unit * 2 ^ (k + 1) := by
    rw [unit, unit, hk, ← zpow_natCast, ← zpow_add₀ two_ne_zero]
    congr 1
    omega
  have hlt : x.significand < y.significand * 2 ^ (k + 1) := by
    calc x.significand < 2 ^ 52 * 2 := x.significand_lt
      _ ≤ y.significand * 2 ^ (k + 1) := Nat.mul_le_mul hy (Nat.le_self_pow k.succ_ne_zero 2)
  calc (x.significand : ℚ) * x.unit
      < (y.significand * 2 ^ (k + 1) : Nat) * x.unit :=
        mul_lt_mul_of_pos_right (by exact_mod_cast hlt) x.unit_pos
    _ = y.significand * y.unit := by
        rw [hunit]
        push_cast
        ring

theorem magnitude_inj {x y : Double} (h : (x.significand : ℚ) * x.unit = y.significand * y.unit) :
    x.magnitude = y.magnitude := by
  have hmax : max x.exponent 1 = max y.exponent 1 := by
    rcases lt_trichotomy (max x.exponent 1) (max y.exponent 1) with hlt | he | hlt
    · exact absurd h (magnitude_lt_of_exponent_lt hlt).ne
    · exact he
    · exact absurd h (magnitude_lt_of_exponent_lt hlt).ne'
  have hunit : x.unit = y.unit := by rw [unit, unit, hmax]
  rw [hunit] at h
  have hsig : x.significand = y.significand :=
    Nat.cast_injective (mul_right_cancel₀ y.unit_pos.ne' h)
  have hx := x.fraction_lt
  have hy := y.fraction_lt
  rw [magnitude_eq, magnitude_eq]
  rw [significand, significand] at hsig
  split at hsig <;> split at hsig <;> omega

theorem significand_eq_zero_iff (x : Double) : x.significand = 0 ↔ x.magnitude = 0 := by
  rw [significand, magnitude_eq]
  split <;> omega

/-- A double is its magnitude bits and its sign. -/
theorem eq_of_magnitude {x y : Double} (hm : x.magnitude = y.magnitude)
    (hn : x.negative = y.negative) : x = y := by
  obtain ⟨a⟩ := x
  obtain ⟨b⟩ := y
  have hw : signWeight = 2 ^ 63 := rfl
  have ha := a.toNat_lt
  have hb := b.toNat_lt
  simp only [magnitude, negative, hw, decide_eq_decide] at hm hn
  have hab : a.toNat = b.toNat := by omega
  rw [UInt64.toNat_inj.mp hab]

theorem significand_mul_unit_eq_zero_iff (x : Double) :
    (x.significand : ℚ) * x.unit = 0 ↔ x.magnitude = 0 := by
  rw [← significand_eq_zero_iff, mul_eq_zero, Nat.cast_eq_zero, or_iff_left x.unit_pos.ne']

theorem quantity?_of_magnitude_eq_zero {x : Double} (h : x.magnitude = 0) :
    x.quantity? = some (.finite 0) := by
  rw [quantity?_eq_finite_iff, (significand_mul_unit_eq_zero_iff x).mpr h, mul_zero]
  rw [magnitude_eq] at h
  exact ⟨by omega, rfl⟩

/-- Doubles that denote one thing have the same bits, or are zeros. -/
theorem eq_or_zeros_of_quantity? {x y : Double} {a : Quantity} (hx : x.quantity? = some a)
    (hy : y.quantity? = some a) : x = y ∨ x.magnitude = 0 ∧ y.magnitude = 0 := by
  cases a with
  | infinite negative =>
      obtain ⟨hex, hfx, hnx⟩ := quantity?_eq_infinite_iff.mp hx
      obtain ⟨hey, hfy, hny⟩ := quantity?_eq_infinite_iff.mp hy
      refine .inl (eq_of_magnitude ?_ (hnx.trans hny.symm))
      rw [magnitude_eq, magnitude_eq, hex, hey, hfx, hfy]
  | finite q =>
      obtain ⟨-, hqx⟩ := quantity?_eq_finite_iff.mp hx
      obtain ⟨-, hqy⟩ := quantity?_eq_finite_iff.mp hy
      have hpx : 0 ≤ (x.significand : ℚ) * x.unit := mul_nonneg (Nat.cast_nonneg _) x.unit_pos.le
      have hpy : 0 ≤ (y.significand : ℚ) * y.unit := mul_nonneg (Nat.cast_nonneg _) y.unit_pos.le
      by_cases hn : x.negative = y.negative
      · -- with one sign the magnitudes are equal
        refine .inl (eq_of_magnitude (magnitude_inj ?_) hn)
        rw [hn, ← hqy] at hqx
        refine mul_left_cancel₀ ?_ hqx
        split <;> norm_num
      · -- with two signs both are zero
        have hopp : (x.significand : ℚ) * x.unit = -(y.significand * y.unit) := by
          rw [← hqy] at hqx
          cases hnx : x.negative <;> cases hny : y.negative <;> simp [hnx, hny] at hn hqx ⊢ <;> linarith
        rw [← significand_mul_unit_eq_zero_iff, ← significand_mul_unit_eq_zero_iff]
        exact .inr ⟨by linarith, by linarith⟩

/-- **Equal doubles** are those that denote one thing. -/
theorem same_iff {x y : Double} :
    x.same y = true ↔ ∃ a, x.quantity? = some a ∧ y.quantity? = some a := by
  have hnan (z : Double) : z.isNan = false ↔ ∃ a, z.quantity? = some a := by
    rw [← Option.ne_none_iff_exists', Ne, quantity?_eq_none_iff, Bool.not_eq_true]
  have hbits : (x.bits == y.bits) = true ↔ x = y := by
    rw [beq_iff_eq]
    exact ⟨fun e => congrArg Double.mk e, fun e => e ▸ rfl⟩
  simp only [same, Bool.and_eq_true, Bool.or_eq_true, Bool.not_eq_true', hbits, hnan, beq_iff_eq]
  constructor
  · rintro ⟨⟨⟨a, ha⟩, -⟩, rfl | ⟨hx, hy⟩⟩
    · exact ⟨a, ha, ha⟩
    · exact ⟨_, quantity?_of_magnitude_eq_zero hx, quantity?_of_magnitude_eq_zero hy⟩
  · rintro ⟨a, hx, hy⟩
    exact ⟨⟨⟨a, hx⟩, a, hy⟩, eq_or_zeros_of_quantity? hx hy⟩

end SqlSession.Double
