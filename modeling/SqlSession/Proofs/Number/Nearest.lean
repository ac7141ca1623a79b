import Mathlib.Data.List.TakeWhile
import Mathlib.Data.Nat.Digits.Defs
import SqlSession.Proofs.Number.Numeral
import SqlSession.Proofs.Number.Quantity

/-! # Integers as doubles

Rounding to a grid gives a nearest multiple of its step, and of two the even one (`nearestSteps_divNearest`).
An integer of more bits than a significand has is rounded to the grid of its binade, and the double denotes
the multiple (`quantity?_ofInt`); so the double denotes the integer exactly if the step divides it.  The
digits of an integer are read as the same double (`ofText?_eq_ofInt`). -/

namespace SqlSession.Number

/-! ### Rounding to a grid -/

/-- Whether so many steps are a multiple of the step nearest to `n`, the even one if two are. -/
structure NearestSteps (step n steps : Nat) : Prop where
  near : 2 * ((step * steps : Nat) - (n : Int)).natAbs ≤ step
  even : 2 * ((step * steps : Nat) - (n : Int)).natAbs = step → Even steps

variable {step n m : Nat}

theorem nearestSteps_divNearest (hstep : 0 < step) : NearestSteps step n (divNearest n step) := by
  have hn : step * (n / step) + n % step = n := Nat.div_add_mod n step
  have hr : n % step < step := Nat.mod_lt n hstep
  have hnext : step * (n / step + 1) = step * (n / step) + step := Nat.mul_succ _ _
  rw [divNearest]
  split
  · constructor <;> omega
  · split
    · constructor <;> omega
    · -- halfway between two multiples
      split
      · exact ⟨by omega, fun _ => Nat.even_iff.mpr ‹_›⟩
      · exact ⟨by omega, fun _ => Nat.even_iff.mpr (by omega)⟩

/-- Nothing is lost exactly if there is nothing to round. -/
theorem NearestSteps.exact_iff (hstep : 0 < step) (h : NearestSteps step n m) :
    step * m = n ↔ step ∣ n := by
  refine ⟨fun he => ⟨m, he.symm⟩, ?_⟩
  rintro ⟨k, rfl⟩
  have hnear := h.near
  -- two multiples within half a step of each other are one
  have hdiff : ((step * m : Nat) - ((step * k : Nat) : Int)).natAbs = step * ((m : Int) - k).natAbs := by
    rw [← Int.natAbs_natCast step, ← Int.natAbs_mul, Int.natAbs_natCast]
    push_cast
    rw [Int.mul_sub]
  rw [hdiff] at hnear
  have hzero : ((m : Int) - k).natAbs = 0 := by
    by_contra hne
    have := Nat.le_mul_of_pos_right step (Nat.pos_of_ne_zero hne)
    omega
  rw [show m = k by omega]

theorem divNearest_mem {low high : Nat} (hstep : 0 < step) (hlow : step * low ≤ n)
    (hhigh : n < step * high) : low ≤ divNearest n step ∧ divNearest n step ≤ high := by
  have hq : low ≤ n / step := (Nat.le_div_iff_mul_le hstep).mpr (by rwa [Nat.mul_comm])
  have hq' : n / step < high := (Nat.div_lt_iff_lt_mul hstep).mpr (by rwa [Nat.mul_comm])
  rw [divNearest]
  split
  · omega
  · split
    · omega
    · split <;> omega

/-! ### Integers of a binade -/

theorem binade_one (hn : n ≠ 0) : binade n 1 = n.log2 := by
  have hle : 2 ^ n.log2 ≤ n := Nat.log2_self_le hn
  have hone : Nat.log2 1 = 0 := by decide
  simp [binade, hone, hle]

theorem nearest_of_log2 {g : Nat} (hg : g ≤ 970) (hlog : n.log2 = g + 52)
    (hsteps : divNearest n (2 ^ g) ≤ 2 ^ 53) :
    BinaryFormat.double.nearest n 1 = (g + 1074) * 2 ^ 52 + divNearest n (2 ^ g) := by
  have hn : n ≠ 0 := by
    rintro rfl
    simp at hlog
  have hleast : BinaryFormat.double.leastExponent = -1074 := rfl
  have hfraction : BinaryFormat.double.fractionBits = 52 := rfl
  have hinf : BinaryFormat.double.infinity = 2047 * 2 ^ 52 := rfl
  have hgrid : max (((g + 52 : Nat) : Int) - (52 : Nat)) (-1074) = g := by omega
  have hshift : ((g : Int) - -1074).toNat = g + 1074 := by omega
  have hround : gridSteps g n 1 = divNearest n (2 ^ g) := by simp [gridSteps]
  have hle : (g + 1074) * 2 ^ 52 + divNearest n (2 ^ g) ≤ 2047 * 2 ^ 52 := by omega
  simp only [BinaryFormat.nearest, if_neg hn, binade_one hn, hlog, hleast, hfraction, hgrid, hshift,
    hround, hinf, Nat.pow_eq]
  exact Nat.min_eq_left hle

theorem nearest_double {g : Nat} (hg : g ≤ 970) (hlow : 2 ^ g * 2 ^ 52 ≤ n)
    (hhigh : n < 2 ^ g * 2 ^ 53) :
    BinaryFormat.double.nearest n 1 = (g + 1074) * 2 ^ 52 + divNearest n (2 ^ g) := by
  have hpos : 0 < 2 ^ g := Nat.two_pow_pos g
  have hn : n ≠ 0 := by omega
  refine nearest_of_log2 hg ((Nat.log2_eq_iff hn).mpr ?_) (divNearest_mem hpos hlow hhigh).2
  rw [Nat.add_assoc, Nat.pow_add, Nat.pow_add]
  exact ⟨hlow, hhigh⟩

end SqlSession.Number

namespace SqlSession.Double

open Number

/-! ### What the bits of a binade denote -/

/-- Counted from the start of a binade, the steps of the magnitude bits are those of what they denote. -/
theorem quantity?_ofMagnitude {k m : Nat} (negative : Bool) (hk : k ≤ 2044) (hlow : 2 ^ 52 ≤ m)
    (hhigh : m ≤ 2 ^ 53) : (ofMagnitude negative (k * 2 ^ 52 + m)).quantity? =
      some (.finite ((if negative then -1 else 1) * (m * 2 ^ ((k : Int) - 1074)))) := by
  have hsign : signWeight = 2 ^ 63 := rfl
  have hbits : (ofMagnitude negative (k * 2 ^ 52 + m)).bits.toNat =
      k * 2 ^ 52 + m + if negative then 2 ^ 63 else 0 := by
    rw [ofMagnitude, hsign, UInt64.toNat_ofNat_of_lt']
    simp only [UInt64.size]
    split <;> omega
  have hnegative : (ofMagnitude negative (k * 2 ^ 52 + m)).negative = negative := by
    rw [Double.negative, hbits, hsign]
    cases negative
    · exact decide_eq_false (by simp only [Bool.false_eq_true, ↓reduceIte]; omega)
    · exact decide_eq_true (by simp only [↓reduceIte]; omega)
  rw [quantity?_eq_finite_iff, hnegative, unit, significand, exponent, fraction, hbits]
  rcases hhigh.lt_or_eq with hlt | rfl
  · -- within the binade
    have hexp : (k * 2 ^ 52 + m + if negative then 2 ^ 63 else 0) / 2 ^ 52 % 2 ^ 11 = k + 1 := by
      split <;> omega
    have hfrac : (k * 2 ^ 52 + m + if negative then 2 ^ 63 else 0) % 2 ^ 52 = m - 2 ^ 52 := by
      split <;> omega
    rw [hexp, hfrac, if_neg (Nat.succ_ne_zero k), show 2 ^ 52 + (m - 2 ^ 52) = m by omega,
      show ((max (k + 1) 1 : Nat) : Int) - 1075 = k - 1074 by omega]
    exact ⟨by omega, rfl⟩
  · -- rounded up to the next one
    have hexp : (k * 2 ^ 52 + 2 ^ 53 + if negative then 2 ^ 63 else 0) / 2 ^ 52 % 2 ^ 11 = k + 2 := by
      split <;> omega
    have hfrac : (k * 2 ^ 52 + 2 ^ 53 + if negative then 2 ^ 63 else 0) % 2 ^ 52 = 0 := by
      split <;> omega
    rw [hexp, hfrac, if_neg (Nat.succ_ne_zero (k + 1)),
      show ((max (k + 2) 1 : Nat) : Int) - 1075 = (k - 1074) + 1 by omega, zpow_add_one₀ two_ne_zero]
    refine ⟨by omega, ?_⟩
    push_cast
    ring

/-- **An integer as a double** is rounded to the grid of its binade. -/
theorem quantity?_ofInt {g n : Nat} (hg : g ≤ 970) (hlow : 2 ^ g * 2 ^ 52 ≤ n)
    (hhigh : n < 2 ^ g * 2 ^ 53) :
    (ofInt n).quantity? = some (.finite ((2 ^ g * divNearest n (2 ^ g) : Nat) : Int)) := by
  obtain ⟨hmlow, hmhigh⟩ := divNearest_mem (Nat.two_pow_pos g) hlow hhigh
  have hsign : decide ((n : Int) < 0) = false := decide_eq_false (by omega)
  have hunit : ((g + 1074 : Nat) : Int) - 1074 = g := by omega
  rw [ofInt, ofQuotient, Int.natAbs_natCast, hsign, nearest_double hg hlow hhigh,
    quantity?_ofMagnitude false (by omega) hmlow hmhigh, hunit, zpow_natCast]
  push_cast
  simp [mul_comm]

/-! ### Doubles in digits -/

variable {s : List Char} {n : Nat}

theorem toLower_digit {c : Char} (h : c.isDigit = true) : c.toLower = c := by
  simp only [Char.isDigit, Bool.and_eq_true, decide_eq_true_eq] at h
  have hle : c.toNat ≤ 57 := h.2
  refine dif_neg ?_
  rintro ⟨hge, -⟩
  have hge : 65 ≤ c.toNat := hge
  omega

theorem map_toLower_digits (h : Digits s n) : s.map Char.toLower = s :=
  (List.map_congr_left fun c hc => toLower_digit (h.2.1 c hc)).trans s.map_id

theorem parse?_digits (h : Digits s n) : Decimal.parse? s = some ⟨n, 0⟩ := by
  have htake : s.takeWhile Char.isDigit = s := List.takeWhile_eq_self_iff.mpr h.2.1
  have hdrop : s.dropWhile Char.isDigit = [] := List.dropWhile_eq_nil_iff.mpr h.2.1
  simp [Decimal.parse?, htake, hdrop, h.1, Decimal.exponent?, h.2.2]

theorem nearest_decimal (f : BinaryFormat) (hn : n < 2 ^ 64) :
    Decimal.nearest f ⟨n, 0⟩ = f.nearest n 1 := by
  have hlength := Nat.toDigits_length 10 n 20 (by decide) (by omega)
  have hreach : Decimal.reach = 400 := rfl
  by_cases hz : n = 0
  · subst hz
    rfl
  · have hlow : ¬ ((Nat.toDigits 10 n).length : Int) < -400 := by omega
    have hhigh : ¬ (400 : Int) < (Nat.toDigits 10 n).length := by omega
    simp [Decimal.nearest, hz, hreach, hlow, hhigh]

theorem magnitudeOfText?_digits (f : BinaryFormat) (h : Digits s n) (hn : n < 2 ^ 64) :
    magnitudeOfText? f s = some (f.nearest n 1) := by
  have hword {word : List Char} {c : Char} (hc : c ∈ word) (hd : c.isDigit = false) : s ≠ word := by
    rintro rfl
    rw [h.2.1 c hc] at hd
    cases hd
  have hinf : s ≠ "inf".toList := hword (c := 'i') (by decide) rfl
  have hinfinity : s ≠ "infinity".toList := hword (c := 'i') (by decide) rfl
  have hnan : s ≠ "nan".toList := hword (c := 'a') (by decide) rfl
  rw [magnitudeOfText?, map_toLower_digits h, parse?_digits h, Option.map_some, nearest_decimal f hn]
  rw [if_neg (not_or.mpr ⟨hinf, hinfinity⟩), if_neg hnan]

/-- **A numeral of a positive integer is read as the double nearest to it.** -/
theorem ofText?_eq_ofInt {z : Int} (h : Numeral true s z) (hz : 0 < z) (hn : z < 2 ^ 64) :
    ofText? s = some (ofInt z) := by
  have hofInt (m : Nat) : ofMagnitude false (BinaryFormat.double.nearest m 1) = ofInt m := by
    rw [ofInt, ofQuotient, Int.natAbs_natCast, decide_eq_false (by omega)]
  rcases h with @⟨s, m, hd⟩ | @⟨s, m, hd⟩ | @⟨s, m, -, hd⟩
  · have hread := magnitudeOfText?_digits .double hd (by omega)
    obtain ⟨c, r, rfl, hminus, hplus⟩ := hd.cons
    simp [ofText?, signedOfText?, hminus, hplus, hread, hofInt]
  · have hread := magnitudeOfText?_digits .double hd (by omega)
    simp [ofText?, signedOfText?, hread, hofInt]
  · omega

end SqlSession.Double
