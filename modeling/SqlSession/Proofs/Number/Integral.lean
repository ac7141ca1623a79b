import SqlSession.Proofs.Number.Quantity

/-! # Doubles at the point

A finite double is a ratio (`exists_ratio?`), and cutting it off at the point loses nothing exactly if it
denotes an integer (`fraction?_same_zero_iff`), which is then what the cut leaves (`clamped_eq`).  Comparison
of doubles is that of what they denote (`lt_iff`, `le_iff`). -/

namespace SqlSession.Double

open Number

variable {x y : Double} {p q : ℚ}

/-! ### Ratios -/

theorem two_zpow_eq (e : Int) : (2 : ℚ) ^ e = 2 ^ e.toNat / 2 ^ (-e).toNat := by
  rcases le_total 0 e with he | he
  · obtain ⟨n, rfl⟩ := Int.eq_ofNat_of_zero_le he
    simp
  · obtain ⟨n, rfl⟩ : ∃ n : Nat, e = -n := ⟨(-e).toNat, by omega⟩
    simp

/-- A finite double is a ratio with a power of two below the line. -/
theorem exists_ratio? (h : x.quantity? = some (.finite q)) :
    ∃ (a : Int) (k : Nat), x.ratio? = some (a, 2 ^ k) ∧ k ≤ 1074 ∧ q = a / 2 ^ k := by
  obtain ⟨he, rfl⟩ := quantity?_eq_finite_iff.mp h
  let e : Int := ((max x.exponent 1 : Nat) : Int) - 1075
  let num : Nat := x.significand * 2 ^ e.toNat
  refine ⟨if x.negative then -(num : Int) else num, (-e).toNat, ?_, by omega, ?_⟩
  · unfold ratio?
    rw [view_eq, if_neg he]
    rfl
  · rw [unit, two_zpow_eq, ← mul_div_assoc, ← mul_div_assoc]
    cases x.negative <;> simp [num, e]

theorem ratio?_eq_none (h : ∀ q, x.quantity? ≠ some (.finite q)) : x.ratio? = none := by
  have he : x.exponent = 2047 := by
    by_contra he
    exact h _ (quantity?_eq_finite_iff.mpr ⟨he, rfl⟩)
  unfold ratio?
  rw [view_eq, if_pos he]
  by_cases hf : x.fraction = 0 <;> simp [hf]

/-! ### Zero -/

/-- On the least grid a multiple of the least positive value is counted without a rest. -/
theorem gridSteps_least {num k j : Nat} (hj : 1074 = k + j) :
    gridSteps (-1074) num (2 ^ k) = num * 2 ^ j := by
  have hneg : ¬ (0 : Int) ≤ -1074 := by decide
  have hexp : (-(-1074 : Int)).toNat = k + j := hj
  have hpos : 0 < 2 ^ k := Nat.two_pow_pos k
  have hpow : num * 2 ^ (k + j) = 2 ^ k * (num * 2 ^ j) := by rw [Nat.pow_add, Nat.mul_left_comm]
  rw [gridSteps, if_neg hneg, hexp, Nat.pow_eq, hpow, divNearest, Nat.mul_mod_right,
    Nat.mul_div_cancel_left _ hpos, if_pos (by omega)]

/-- What is a multiple of the least positive value is not rounded to zero. -/
theorem nearest_ne_zero {num k : Nat} (hk : k ≤ 1074) (hnum : num ≠ 0) :
    BinaryFormat.double.nearest num (2 ^ k) ≠ 0 := by
  have hleast : BinaryFormat.double.leastExponent = -1074 := rfl
  have hfraction : BinaryFormat.double.fractionBits = 52 := rfl
  have hinf : BinaryFormat.double.infinity = 2047 * 2 ^ 52 := rfl
  simp only [BinaryFormat.nearest, if_neg hnum, hleast, hfraction, hinf, Nat.pow_eq]
  intro h
  -- above the least grid the count of its start is positive
  have hgrid : max (binade num (2 ^ k) - (52 : Nat)) (-1074) = -1074 := by omega
  rw [hgrid] at h
  obtain ⟨j, hj⟩ := Nat.exists_eq_add_of_le hk
  have hcount : 0 < num * 2 ^ j := Nat.mul_pos (Nat.pos_of_ne_zero hnum) (Nat.two_pow_pos j)
  rw [gridSteps_least hj] at h
  omega

theorem nearest_eq_zero_iff {num k : Nat} (hk : k ≤ 1074) :
    BinaryFormat.double.nearest num (2 ^ k) = 0 ↔ num = 0 := by
  constructor
  · intro h
    by_contra hnum
    exact nearest_ne_zero hk hnum h
  · intro h
    exact if_pos h

theorem quantity?_zero : zero.quantity? = some (.finite 0) := quantity?_of_magnitude_eq_zero rfl

theorem same_zero_iff : x.same zero = true ↔ x.magnitude = 0 := by
  rw [same_iff]
  constructor
  · rintro ⟨a, hx, hz⟩
    obtain rfl := Option.some.inj (quantity?_zero.symm.trans hz)
    rcases eq_or_zeros_of_quantity? hx hz with rfl | ⟨hm, -⟩
    · rfl
    · exact hm
  · intro hm
    exact ⟨_, quantity?_of_magnitude_eq_zero hm, quantity?_zero⟩

theorem nearest_lt (num den : Nat) : BinaryFormat.double.nearest num den < signWeight := by
  have hinf : BinaryFormat.double.infinity < signWeight := by decide
  apply lt_of_le_of_lt _ hinf
  unfold BinaryFormat.nearest
  split
  · exact Nat.zero_le _
  · exact Nat.min_le_right _ _

theorem magnitude_ofMagnitude {negative : Bool} {m : Nat} (hm : m < signWeight) :
    (ofMagnitude negative m).magnitude = m := by
  have hw : signWeight = 2 ^ 63 := rfl
  rw [hw] at hm
  rw [magnitude, ofMagnitude, hw, UInt64.toNat_ofNat_of_lt']
  · split <;> omega
  · simp only [UInt64.size]
    split <;> omega

/-- **Nothing is after the point** of the doubles that denote integers. -/
theorem fraction?_same_zero_iff :
    x.fraction?.any (·.same zero) = true ↔ ∃ z : Int, x.quantity? = some (.finite z) := by
  by_cases hx : ∃ q, x.quantity? = some (.finite q)
  · obtain ⟨q, hq⟩ := hx
    obtain ⟨a, k, hratio, hk, rfl⟩ := exists_ratio? hq
    have hpos : (2 : ℚ) ^ k ≠ 0 := by positivity
    have hdvd : (∃ z : Int, (a : ℚ) / 2 ^ k = z) ↔ (2 ^ k : Int) ∣ a := by
      constructor
      · rintro ⟨z, hz⟩
        refine ⟨z, ?_⟩
        rw [div_eq_iff hpos] at hz
        rw [mul_comm]
        exact_mod_cast hz
      · rintro ⟨z, rfl⟩
        exact ⟨z, by push_cast; rw [mul_div_cancel_left₀ _ hpos]⟩
    have hcast : ((2 ^ k : Nat) : Int) = 2 ^ k := by push_cast; rfl
    simp only [fraction?, hratio, Option.map_some, Option.any_some, same_zero_iff, ofRatio, ofQuotient,
      magnitude_ofMagnitude (nearest_lt _ _), nearest_eq_zero_iff hk, Int.natAbs_eq_zero, hcast,
      ← Int.dvd_iff_tmod_eq_zero, ← hdvd, hq, Option.some.injEq, Quantity.finite.injEq]
  · have hnone := ratio?_eq_none fun q hq => hx ⟨q, hq⟩
    unfold fraction?
    rw [hnone]
    constructor
    · intro h
      cases h
    · rintro ⟨z, hz⟩
      exact absurd ⟨_, hz⟩ hx

/-- Cut off at the point, an integer is what it was. -/
theorem clamped_eq {low high z : Int} (h : x.quantity? = some (.finite z)) (hlow : low ≤ z)
    (hhigh : z ≤ high) : x.clamped low high = z := by
  obtain ⟨a, k, hratio, -, hq⟩ := exists_ratio? h
  have hpos : (2 : ℚ) ^ k ≠ 0 := by positivity
  obtain rfl : a = z * (2 ^ k : Nat) := by
    rw [eq_comm, div_eq_iff hpos] at hq
    exact_mod_cast hq
  have hcut : x.truncated? = some z := by
    have hne : ((2 ^ k : Nat) : Int) ≠ 0 := by positivity
    rw [truncated?, hratio]
    exact congrArg some (Int.mul_tdiv_cancel z hne)
  simp only [clamped, hcut]
  omega

/-! ### Order -/

theorem magnitude_lt_iff : x.magnitude < y.magnitude ↔
    (x.significand : ℚ) * x.unit < y.significand * y.unit := by
  have hmono {x y : Double} (h : x.magnitude < y.magnitude) :
      (x.significand : ℚ) * x.unit < y.significand * y.unit := by
    have hx := x.fraction_lt
    have hy := y.fraction_lt
    rw [magnitude_eq, magnitude_eq] at h
    rcases lt_trichotomy (max x.exponent 1) (max y.exponent 1) with hlt | he | hlt
    · exact magnitude_lt_of_exponent_lt hlt
    · -- in one binade the significands are in order
      have hunit : x.unit = y.unit := by rw [unit, unit, he]
      have hsig : x.significand < y.significand := by
        rw [significand, significand]
        split <;> split <;> omega
      rw [hunit]
      exact mul_lt_mul_of_pos_right (by exact_mod_cast hsig) y.unit_pos
    · omega
  refine ⟨hmono, ?_⟩
  intro h
  rcases lt_trichotomy x.magnitude y.magnitude with hlt | he | hlt
  · exact hlt
  · have hx := x.fraction_lt
    have hy := y.fraction_lt
    rw [magnitude_eq, magnitude_eq] at he
    have hexp : x.exponent = y.exponent := by omega
    have hfrac : x.fraction = y.fraction := by omega
    rw [unit, unit, significand, significand, hexp, hfrac] at h
    exact absurd h (lt_irrefl _)
  · exact absurd h (hmono hlt).not_gt

theorem isNan_of_quantity? {a : Quantity} (h : x.quantity? = some a) : x.isNan = false := by
  rw [← Bool.not_eq_true, ← quantity?_eq_none_iff, h]
  nofun

/-- Ranks are in the order of the denoted values. -/
theorem rank_lt_iff (hx : x.quantity? = some (.finite p)) (hy : y.quantity? = some (.finite q)) :
    x.rank < y.rank ↔ p < q := by
  obtain ⟨-, rfl⟩ := quantity?_eq_finite_iff.mp hx
  obtain ⟨-, rfl⟩ := quantity?_eq_finite_iff.mp hy
  have hpx : 0 ≤ (x.significand : ℚ) * x.unit := mul_nonneg (Nat.cast_nonneg _) x.unit_pos.le
  have hpy : 0 ≤ (y.significand : ℚ) * y.unit := mul_nonneg (Nat.cast_nonneg _) y.unit_pos.le
  have hzx := significand_mul_unit_eq_zero_iff x
  have hzy := significand_mul_unit_eq_zero_iff y
  unfold rank
  cases x.negative <;> cases y.negative <;>
    simp only [Bool.false_eq_true, ↓reduceIte, one_mul, neg_mul, neg_lt_neg_iff, Int.ofNat_lt]
  · exact magnitude_lt_iff
  · -- nothing negative is above what is not
    have hle : ¬ (x.significand : ℚ) * x.unit < -(y.significand * y.unit) := by linarith
    rw [iff_false_right hle]
    omega
  · -- what is not negative is above unless both are zeros
    rw [← not_iff_not]
    constructor
    · intro h
      have hx : x.magnitude = 0 := by omega
      have hy : y.magnitude = 0 := by omega
      rw [hzx.mpr hx, hzy.mpr hy]
      norm_num
    · intro h
      have hx : x.magnitude = 0 := hzx.mp (by linarith)
      have hy : y.magnitude = 0 := hzy.mp (by linarith)
      omega
  · exact magnitude_lt_iff

theorem lt_iff (hx : x.quantity? = some (.finite p)) (hy : y.quantity? = some (.finite q)) :
    x.lt y = true ↔ p < q := by
  simp [lt, isNan_of_quantity? hx, isNan_of_quantity? hy, rank_lt_iff hx hy]

theorem le_iff (hx : x.quantity? = some (.finite p)) (hy : y.quantity? = some (.finite q)) :
    x.le y = true ↔ p ≤ q := by
  rw [← not_lt, ← rank_lt_iff hy hx, not_lt]
  simp [le, isNan_of_quantity? hx, isNan_of_quantity? hy]

end SqlSession.Double
