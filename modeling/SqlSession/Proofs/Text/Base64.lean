import Mathlib.Tactic.SplitIfs
import SqlSession.Text.Base64

/-! # Base64 read back

The reading of base64 takes exactly the texts that octets are written as, and gives those octets
(`ofBase64?_eq_some_iff`).  So every sequence of octets has one written form, and no two share one. -/

namespace SqlSession.Text

/-! ### Digits -/

theorem base64Value?_base64Digit : ∀ n < 64, base64Value? (base64Digit n) = some n := by decide

theorem base64Digit_of_value {c : Char} {n : Nat} (h : base64Value? c = some n) :
    n < 64 ∧ base64Digit n = c := by
  have hc := Char.ofNat_toNat c
  simp only [base64Value?, Bool.and_eq_true, decide_eq_true_eq, beq_iff_eq] at h
  split_ifs at h with hupper hlower hdigit hplus hslash
  all_goals obtain rfl := Option.some.inj h
  · refine ⟨by omega, ?_⟩
    rw [base64Digit, if_pos (by omega), show 65 + (c.toNat - 65) = c.toNat by omega, hc]
  · refine ⟨by omega, ?_⟩
    rw [base64Digit, if_neg (by omega), if_pos (by omega),
      show 71 + (c.toNat - 71) = c.toNat by omega, hc]
  · refine ⟨by omega, ?_⟩
    rw [base64Digit, if_neg (by omega), if_neg (by omega), if_pos (by omega), Nat.add_sub_cancel, hc]
  · refine ⟨by omega, ?_⟩
    rw [← hc, hplus]
    rfl
  · refine ⟨by omega, ?_⟩
    rw [← hc, hslash]
    rfl

theorem base64Digit_ne_pad : ∀ n < 64, base64Digit n ≠ '=' := by decide

/-! ### Groups -/

theorem ofNat_eq_of_mod {n : Nat} {a : UInt8} (h : n % 256 = a.toNat) : UInt8.ofNat n = a := by
  rw [← UInt8.toNat_inj, UInt8.toNat_ofNat', h]

theorem ofBase64Chars?_base64Chars (b : Bytes) : ofBase64Chars? (base64Chars b) = some b := by
  have hv := base64Value?_base64Digit
  fun_induction base64Chars b with
  | case1 => rfl
  | case2 a n =>
      have ha := a.toNat_lt
      rw [ofBase64Chars?, hv _ (by omega), hv _ (by omega)]
      have hn : n / 4 * 64 + n % 4 * 16 = n * 16 := by omega
      simp only [Option.bind_eq_bind, Option.bind_some, hn]
      rw [if_pos (by omega), ofNat_eq_of_mod (a := a) (by omega)]
      rfl
  | case3 a b n =>
      have ha := a.toNat_lt
      have hb := b.toNat_lt
      rw [ofBase64Chars?, hv _ (by omega), hv _ (by omega), hv _ (by omega)]
      · have hn : (n / 1024 * 64 + n / 16 % 64) * 64 + n % 16 * 4 = n * 4 := by omega
        simp only [Option.bind_eq_bind, Option.bind_some, hn]
        rw [if_pos (by omega), ofNat_eq_of_mod (a := a) (by omega), ofNat_eq_of_mod (a := b) (by omega)]
        rfl
      · exact base64Digit_ne_pad _ (by omega)
  | case4 a b c r n ih =>
      have ha := a.toNat_lt
      have hb := b.toNat_lt
      have hc := c.toNat_lt
      rw [ofBase64Chars?, hv _ (by omega), hv _ (by omega), hv _ (by omega), hv _ (by omega), ih]
      · have hn : ((n / 262144 * 64 + n / 4096 % 64) * 64 + n / 64 % 64) * 64 + n % 64 = n := by omega
        simp only [Option.bind_eq_bind, Option.bind_some, hn]
        rw [ofNat_eq_of_mod (a := a) (by omega), ofNat_eq_of_mod (a := b) (by omega), ofNat_eq_of_mod (a := c) (by omega)]
        rfl
      · exact fun h => absurd h (base64Digit_ne_pad _ (by omega))
      · exact fun h => absurd h (base64Digit_ne_pad _ (by omega))

/-- What is read was written. -/
theorem base64Chars_of_read {s : List Char} {b : Bytes} (h : ofBase64Chars? s = some b) :
    base64Chars b = s := by
  fun_induction ofBase64Chars? s generalizing b with
  | case1 =>
      obtain rfl := Option.some.inj h
      rfl
  | case2 x y =>
      simp only [Option.bind_eq_bind, Option.bind_eq_some_iff, Option.ite_none_right_eq_some,
        Option.pure_def, Option.some.injEq] at h
      obtain ⟨u, hu, v, hv, hlast, rfl⟩ := h
      obtain ⟨hu, rfl⟩ := base64Digit_of_value hu
      obtain ⟨hv, rfl⟩ := base64Digit_of_value hv
      have hn : (UInt8.ofNat ((u * 64 + v) / 16)).toNat = (u * 64 + v) / 16 := by
        rw [UInt8.toNat_ofNat']
        omega
      rw [base64Chars, hn, show (u * 64 + v) / 16 / 4 = u by omega,
        show (u * 64 + v) / 16 % 4 * 16 = v by omega]
  | case3 x y z hz =>
      simp only [Option.bind_eq_bind, Option.bind_eq_some_iff, Option.ite_none_right_eq_some,
        Option.pure_def, Option.some.injEq] at h
      obtain ⟨u, hu, v, hv, w, hw, hlast, rfl⟩ := h
      obtain ⟨hu, rfl⟩ := base64Digit_of_value hu
      obtain ⟨hv, rfl⟩ := base64Digit_of_value hv
      obtain ⟨hw, rfl⟩ := base64Digit_of_value hw
      have hn : (UInt8.ofNat (((u * 64 + v) * 64 + w) / 1024)).toNat * 256 +
          (UInt8.ofNat (((u * 64 + v) * 64 + w) / 4)).toNat = ((u * 64 + v) * 64 + w) / 4 := by
        rw [UInt8.toNat_ofNat', UInt8.toNat_ofNat']
        omega
      simp only [base64Chars, hn]
      rw [show ((u * 64 + v) * 64 + w) / 4 / 1024 = u by omega,
        show ((u * 64 + v) * 64 + w) / 4 / 16 % 64 = v by omega,
        show ((u * 64 + v) * 64 + w) / 4 % 16 * 4 = w by omega]
  | case4 x y z t r _ _ ih =>
      simp only [Option.bind_eq_bind, Option.bind_eq_some_iff, Option.pure_def,
        Option.some.injEq] at h
      obtain ⟨u, hu, v, hv, w, hw, m, hm, b, hb, rfl⟩ := h
      obtain ⟨hu, rfl⟩ := base64Digit_of_value hu
      obtain ⟨hv, rfl⟩ := base64Digit_of_value hv
      obtain ⟨hw, rfl⟩ := base64Digit_of_value hw
      obtain ⟨hm, rfl⟩ := base64Digit_of_value hm
      obtain ⟨n, hn⟩ : ∃ n, n = ((u * 64 + v) * 64 + w) * 64 + m := ⟨_, rfl⟩
      have hoctets : ((UInt8.ofNat (n / 65536)).toNat * 256 + (UInt8.ofNat (n / 256)).toNat) * 256 +
          (UInt8.ofNat n).toNat = n := by
        rw [UInt8.toNat_ofNat', UInt8.toNat_ofNat', UInt8.toNat_ofNat']
        omega
      rw [← hn]
      simp only [base64Chars, hoctets, ih hb]
      rw [show n / 262144 = u by omega, show n / 4096 % 64 = v by omega,
        show n / 64 % 64 = w by omega, show n % 64 = m by omega]
  | case5 => cases h

/-- **Base64 is read exactly as it is written.** -/
theorem ofBase64?_eq_some_iff {s : String} {b : Bytes} : ofBase64? s = some b ↔ s = base64 b := by
  rw [ofBase64?, base64]
  constructor
  · intro h
    rw [base64Chars_of_read h, String.ofList_toList]
  · rintro rfl
    rw [String.toList_ofList, ofBase64Chars?_base64Chars]

end SqlSession.Text
