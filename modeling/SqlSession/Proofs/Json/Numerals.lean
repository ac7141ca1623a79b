import Mathlib.Algebra.Ring.Int.Defs
import SqlSession.Json.Lexer
import SqlSession.Proofs.Number.Numeral

/-! # Integers in JSON

A numeral of an integer that a 64-bit word holds, signed or unsigned, is read as that integer up to
where it ends (`scanNumber_integral`).  The only exception is `-0`, which is a double. -/

namespace SqlSession.Json

open Number

/-! ### Numerals -/

/-- Whether a text is an integer's numeral in JSON: digits after at most a minus sign, and no zero before
other digits. -/
inductive Integral : List Char → Int → Prop
  | bare {s : List Char} {n : Nat} (h : Digits s n) (hz : s.head? = some '0' → s.length = 1) :
      Integral s n
  | minus {s : List Char} {n : Nat} (h : Digits s n) (hz : s.head? = some '0' → s.length = 1) :
      Integral ('-' :: s) (-n)

/-- The value of an integer's numeral: negative zero is a double. -/
def integralValue (s : List Char) (z : Int) : Json :=
  if s = ['-', '0'] then .float Double.zero.neg else .int z

/-- Whether a number ends before a text. -/
def EndsNumber (rest : List Char) : Prop :=
  ∀ c, rest.head? = some c → c.isDigit = false ∧ c ≠ '.' ∧ c ≠ 'e' ∧ c ≠ 'E'

variable {s rest : List Char} {z : Int} {n : Nat}

theorem Integral.numeral (h : Integral s z) : Numeral true s z := by
  cases h with
  | bare h _ => exact .bare h
  | minus h _ => exact .minus rfl h

theorem eq_zero_of_digits (h : Digits s n) (hz : s.head? = some '0' → s.length = 1) (hn : n = 0) :
    s = ['0'] := by
  obtain ⟨hne, hall, hvalue⟩ := h
  obtain ⟨c, r, rfl⟩ := List.exists_cons_of_ne_nil hne
  have hc := hall c List.mem_cons_self
  simp only [Char.isDigit, Bool.and_eq_true, decide_eq_true_eq] at hc
  have hle : 48 ≤ c.toNat := hc.1
  rw [Nat.ofDigitChars_cons, Nat.ofDigitChars_eq_ofDigitChars_zero] at hvalue
  have hzero : c = '0' := by
    have hp : 10 ^ r.length ≠ 0 := by simp
    have hm : 10 ^ r.length * (10 * 0 + (c.toNat - 48)) = 0 := by
      rw [show 48 = '0'.toNat from rfl]
      omega
    have hd := (Nat.mul_eq_zero.mp hm).resolve_left hp
    rw [← Char.ofNat_toNat c, show c.toNat = 48 by omega]
  subst hzero
  obtain rfl : r = [] := List.length_eq_zero_iff.mp (by simpa using hz rfl)
  rfl

/-! ### Digits -/

theorem takeWhile_digits (hall : ∀ c ∈ s, c.isDigit = true) (hrest : EndsNumber rest) :
    (s ++ rest).takeWhile Char.isDigit = s ∧ (s ++ rest).dropWhile Char.isDigit = rest := by
  rw [List.takeWhile_append_of_pos hall, List.dropWhile_append_of_pos hall]
  cases rest with
  | nil => simp
  | cons c r =>
      have hc := (hrest c rfl).1
      rw [List.takeWhile_cons_of_neg (by simp [hc]), List.dropWhile_cons_of_neg (by simp [hc]),
        List.append_nil]
      exact ⟨rfl, rfl⟩

/-- Digits are kept as long as their number is a word. -/
theorem absorb_eq : ∀ {s : List Char} {init : Nat}, Nat.ofDigitChars 10 s init ≤ wordLimit →
    absorb init s = (Nat.ofDigitChars 10 s init, s.length)
  | [], _, _ => rfl
  | c :: r, init, h => by
      have hnext : init * 10 + (c.toNat - 48) = 10 * init + (c.toNat - '0'.toNat) := by
        rw [Nat.mul_comm]
        rfl
      rw [Nat.ofDigitChars_cons, ← hnext] at h
      have hle : init * 10 + (c.toNat - 48) ≤ wordLimit := by
        rw [Nat.ofDigitChars_eq_ofDigitChars_zero] at h
        have hp : 0 < 10 ^ r.length := Nat.pow_pos (by decide)
        have := Nat.le_mul_of_pos_left (init * 10 + (c.toNat - 48)) hp
        omega
      rw [absorb, if_pos hle, absorb_eq h, Nat.ofDigitChars_cons, ← hnext]
      rfl

/-! ### Numbers -/

theorem integral?_digits {negative : Bool} (h : Digits s n) (hn : n ≤ wordLimit) :
    integral? negative s =
      if !negative then some (.int n)
      else if n = 0 ∨ Nat.pow 2 63 < n then some (.float (Double.ofInt n).neg)
      else some (.int (-n)) := by
  have hvalue := h.2.2
  rw [integral?, absorb_eq (by omega), hvalue]
  exact if_pos rfl

theorem scanMagnitude_digits (negative : Bool) (h : Digits s n)
    (hz : s.head? = some '0' → s.length = 1) (hrest : EndsNumber rest) :
    scanMagnitude negative (s ++ rest) = (integral? negative s).map (·, rest) := by
  obtain ⟨htake, hdrop⟩ := takeWhile_digits h.2.1 hrest
  have hwritten : (s.isEmpty || s.length != 1 && s.head? == some '0') = false := by
    by_cases hhead : s.head? = some '0'
    · simp [hz hhead, h.1]
    · simp [hhead, h.1]
  have hend : scanExponent rest = some (none, rest) := by
    cases rest with
    | nil => rfl
    | cons d t =>
        unfold scanExponent
        exact if_neg (not_or.mpr (hrest d rfl).2.2)
  unfold scanMagnitude
  simp only [htake, hdrop, hwritten, Bool.false_eq_true, ↓reduceIte]
  split
  · -- No point follows.
    exact absurd rfl (hrest '.' rfl).2.1
  · rw [hend]
    cases integral? negative s <;> rfl

theorem scanNumber_signed {c : Char} {r : List Char} (hminus : c ≠ '-') :
    scanNumber (c :: r) = scanMagnitude false (c :: r) := by
  rw [scanNumber]
  simp [hminus]

/-- **An integer's numeral is read** as the integer, up to where it ends. -/
theorem scanNumber_integral (h : Integral s z) (hrest : EndsNumber rest) (hlow : -2 ^ 63 ≤ z)
    (hhigh : z < 2 ^ 64) : scanNumber (s ++ rest) = some (integralValue s z, rest) := by
  have hlimit : wordLimit = 2 ^ 64 - 1 := rfl
  cases h with
  | @bare s n h hz =>
      have hread := scanMagnitude_digits false h hz hrest
      rw [integral?_digits h (by omega)] at hread
      obtain ⟨c, r, rfl, hminus, -⟩ := h.cons
      rw [integralValue, if_neg (by simp [hminus]), List.cons_append, scanNumber_signed hminus]
      exact hread
  | @minus s n h hz =>
      have hread := scanMagnitude_digits true h hz hrest
      rw [integral?_digits h (by omega)] at hread
      by_cases hn : n = 0
      · rw [eq_zero_of_digits h hz hn] at hread ⊢
        subst hn
        exact hread
      · have hs : '-' :: s ≠ ['-', '0'] := by
          intro he
          obtain rfl := List.tail_eq_of_cons_eq he
          exact hn h.2.2.symm
        rw [if_neg (by simp), if_neg (by simp; omega)] at hread
        rw [integralValue, if_neg hs]
        exact hread

end SqlSession.Json
