import Mathlib.Order.Basic
import SqlSession.Text.Utf8

/-! # Reading UTF-8 back

A text is read from its encoding, and from no other octets (`ofUtf8_eq_ok_iff`).  A character is read by
its first octet, which announces how many follow, and by these, six bits each; the ranges that shut out
overlong forms and surrogates hold for the octets of a character. -/

namespace SqlSession.Text

theorem char_toNat_lt (c : Char) : c.toNat < 0xD800 ∨ 0xDFFF < c.toNat ∧ c.toNat < 0x110000 := by
  exact c.valid

theorem utf8Scan_lead {b : UInt8} {n low high bits : Nat}
    (h : utf8Lead b.toNat = some ⟨n + 1, low, high, bits⟩) (offset : Nat) (r : Bytes) :
    utf8Scan offset none (b :: r) = utf8Scan offset (some ⟨n + 1, low, high, bits, 1⟩) r := by
  rw [utf8Scan, h]

theorem toNat_octet {n : Nat} (h : n < 256) : (UInt8.ofNat n).toNat = n := by
  rw [UInt8.toNat_ofNat', Nat.mod_eq_of_lt h]

section Octet

variable {low high bits taken x : Nat} (hlow : low ≤ 0x80 + x) (hhigh : 0x80 + x ≤ high) (hx : x < 64)
include hlow hhigh hx

/-- Six more bits, with more to come. -/
theorem utf8Scan_next (missing offset : Nat) (r : Bytes) :
    utf8Scan offset (some ⟨missing + 2, low, high, bits, taken⟩) (UInt8.ofNat (0x80 + x) :: r) =
      utf8Scan offset (some ⟨missing + 1, 0x80, 0xBF, bits * 64 + x, taken + 1⟩) r := by
  have hmod : (0x80 + x) % 256 = 0x80 + x := Nat.mod_eq_of_lt (by omega)
  simp [utf8Scan, hmod, hlow, hhigh]

theorem utf8Scan_last (offset : Nat) (r : Bytes) :
    utf8Scan offset (some ⟨1, low, high, bits, taken⟩) (UInt8.ofNat (0x80 + x) :: r) =
      (utf8Scan (offset + taken + 1) none r).map (Char.ofNat (bits * 64 + x) :: ·) := by
  have hmod : (0x80 + x) % 256 = 0x80 + x := Nat.mod_eq_of_lt (by omega)
  simp [utf8Scan, hmod, hlow, hhigh]

end Octet

/-- The first octet of a character of three, and the range of the second. -/
theorem utf8Lead_three {n : Nat} (hlow : 0x800 ≤ n) (hhigh : n < 0x10000)
    (hvalid : n < 0xD800 ∨ 0xDFFF < n) :
    ∃ low high, utf8Lead (0xE0 + n / 4096) = some ⟨2, low, high, n / 4096⟩ ∧
      low ≤ 0x80 + n / 64 % 64 ∧ 0x80 + n / 64 % 64 ≤ high := by
  by_cases h0 : n / 4096 = 0
  · exact ⟨0xA0, 0xBF, by rw [h0]; rfl, by omega, by omega⟩
  · by_cases hd : n / 4096 = 0xD
    · exact ⟨0x80, 0x9F, by rw [hd]; rfl, by omega, by omega⟩
    · refine ⟨0x80, 0xBF, ?_, by omega, by omega⟩
      simp only [utf8Lead, Bool.and_eq_true, decide_eq_true_eq, beq_iff_eq]
      rw [if_neg (by omega), if_neg (by omega), if_neg (by omega), if_neg (by omega),
        if_pos (by omega), Nat.add_sub_cancel_left]

/-- The first octet of a character of four, and the range of the second. -/
theorem utf8Lead_four {n : Nat} (hlow : 0x10000 ≤ n) (hhigh : n < 0x110000) :
    ∃ low high, utf8Lead (0xF0 + n / 262144) = some ⟨3, low, high, n / 262144⟩ ∧
      low ≤ 0x80 + n / 4096 % 64 ∧ 0x80 + n / 4096 % 64 ≤ high := by
  have hq : n / 262144 = 0 ∨ n / 262144 = 1 ∨ n / 262144 = 2 ∨ n / 262144 = 3 ∨ n / 262144 = 4 := by
    omega
  rcases hq with h | h | h | h | h
  · exact ⟨0x90, 0xBF, by rw [h]; rfl, by omega, by omega⟩
  · exact ⟨0x80, 0xBF, by rw [h]; rfl, by omega, by omega⟩
  · exact ⟨0x80, 0xBF, by rw [h]; rfl, by omega, by omega⟩
  · exact ⟨0x80, 0xBF, by rw [h]; rfl, by omega, by omega⟩
  · exact ⟨0x80, 0x8F, by rw [h]; rfl, by omega, by omega⟩

/-! ### Characters by their number of octets -/

section Length

variable {c : Char}

theorem utf8Char_one (h : c.toNat < 0x80) : utf8Char c = [UInt8.ofNat c.toNat] := if_pos h

theorem utf8Char_two (h : 0x80 ≤ c.toNat) (h' : c.toNat < 0x800) :
    utf8Char c = [UInt8.ofNat (0xC0 + c.toNat / 64), UInt8.ofNat (0x80 + c.toNat % 64)] :=
  (if_neg (Nat.not_lt.2 h)).trans (if_pos h')

theorem utf8Char_three (h : 0x800 ≤ c.toNat) (h' : c.toNat < 0x10000) :
    utf8Char c = [UInt8.ofNat (0xE0 + c.toNat / 4096), UInt8.ofNat (0x80 + c.toNat / 64 % 64),
      UInt8.ofNat (0x80 + c.toNat % 64)] :=
  (if_neg (by omega)).trans ((if_neg (Nat.not_lt.2 h)).trans (if_pos h'))

theorem utf8Char_four (h : 0x10000 ≤ c.toNat) :
    utf8Char c = [UInt8.ofNat (0xF0 + c.toNat / 262144), UInt8.ofNat (0x80 + c.toNat / 4096 % 64),
      UInt8.ofNat (0x80 + c.toNat / 64 % 64), UInt8.ofNat (0x80 + c.toNat % 64)] :=
  (if_neg (by omega)).trans ((if_neg (by omega)).trans (if_neg (Nat.not_lt.2 h)))

end Length

theorem utf8Char_ne_nil (c : Char) : utf8Char c ≠ [] := by
  by_cases h1 : c.toNat < 0x80
  · rw [utf8Char_one h1]
    exact List.cons_ne_nil _ _
  by_cases h2 : c.toNat < 0x800
  · rw [utf8Char_two (by omega) h2]
    exact List.cons_ne_nil _ _
  by_cases h3 : c.toNat < 0x10000
  · rw [utf8Char_three (by omega) h3]
    exact List.cons_ne_nil _ _
  · rw [utf8Char_four (by omega)]
    exact List.cons_ne_nil _ _

/-- The octets of a character are read as that character. -/
theorem utf8Scan_utf8Char (c : Char) (offset : Nat) (r : Bytes) :
    ∃ next, utf8Scan offset none (utf8Char c ++ r) = (utf8Scan next none r).map (c :: ·) := by
  have hc : Char.ofNat c.toNat = c := Char.ofNat_toNat c
  have hvalid := char_toNat_lt c
  by_cases h1 : c.toNat < 0x80
  · have hlead : utf8Lead (UInt8.ofNat c.toNat).toNat = some ⟨0, 0x80, 0xBF, c.toNat⟩ := by
      rw [toNat_octet (by omega), utf8Lead, if_pos h1]
    refine ⟨offset + 1, ?_⟩
    rw [utf8Char_one h1, List.singleton_append, utf8Scan, hlead]
    simp only [hc]
  by_cases h2 : c.toNat < 0x800
  · have hlead : utf8Lead (UInt8.ofNat (0xC0 + c.toNat / 64)).toNat =
        some ⟨1, 0x80, 0xBF, c.toNat / 64⟩ := by
      have hle : 0xC2 ≤ 0xC0 + c.toNat / 64 ∧ 0xC0 + c.toNat / 64 ≤ 0xDF := by omega
      rw [toNat_octet (by omega), utf8Lead, if_neg (by omega), if_pos (by simpa using hle),
        Nat.add_sub_cancel_left]
    have hsplit : c.toNat / 64 * 64 + c.toNat % 64 = c.toNat := by omega
    refine ⟨offset + 1 + 1, ?_⟩
    rw [utf8Char_two (by omega) h2, List.cons_append, List.singleton_append, utf8Scan_lead hlead,
      utf8Scan_last (by omega) (by omega) (by omega), hsplit, hc]
  by_cases h3 : c.toNat < 0x10000
  · obtain ⟨low, high, hlead, hlow, hhigh⟩ :=
      utf8Lead_three (n := c.toNat) (by omega) h3 (by omega)
    rw [← toNat_octet (n := 0xE0 + c.toNat / 4096) (by omega)] at hlead
    have hsplit : (c.toNat / 4096 * 64 + c.toNat / 64 % 64) * 64 + c.toNat % 64 = c.toNat := by omega
    refine ⟨offset + 2 + 1, ?_⟩
    rw [utf8Char_three (by omega) h3, List.cons_append, List.cons_append, List.singleton_append,
      utf8Scan_lead hlead, utf8Scan_next hlow hhigh (by omega) 0,
      utf8Scan_last (by omega) (by omega) (by omega), hsplit, hc]
  · obtain ⟨low, high, hlead, hlow, hhigh⟩ := utf8Lead_four (n := c.toNat) (by omega) (by omega)
    rw [← toNat_octet (n := 0xF0 + c.toNat / 262144) (by omega)] at hlead
    have hsplit : ((c.toNat / 262144 * 64 + c.toNat / 4096 % 64) * 64 + c.toNat / 64 % 64) * 64 +
        c.toNat % 64 = c.toNat := by omega
    refine ⟨offset + 3 + 1, ?_⟩
    rw [utf8Char_four (by omega), List.cons_append, List.cons_append, List.cons_append,
      List.singleton_append, utf8Scan_lead hlead, utf8Scan_next hlow hhigh (by omega) 1,
      utf8Scan_next (by omega) (by omega) (by omega) 0, utf8Scan_last (by omega) (by omega) (by omega),
      hsplit, hc]

theorem utf8Scan_flatMap : ∀ (s : List Char) (offset : Nat),
    utf8Scan offset none (s.flatMap utf8Char) = .ok s
  | [], _ => rfl
  | c :: r, offset => by
      obtain ⟨next, hnext⟩ := utf8Scan_utf8Char c offset (r.flatMap utf8Char)
      rw [List.flatMap_cons, hnext, utf8Scan_flatMap r next]
      rfl

/-! ### Nothing else is read -/

theorem utf8Lead_cases {b following low high bits : Nat}
    (h : utf8Lead b = some ⟨following, low, high, bits⟩) :
    (following = 0 ∧ b < 0x80 ∧ bits = b) ∨
    (following = 1 ∧ 0xC2 ≤ b ∧ b ≤ 0xDF ∧ low = 0x80 ∧ high = 0xBF ∧ bits = b - 0xC0) ∨
    (following = 2 ∧ 0xE0 ≤ b ∧ b ≤ 0xEF ∧ 0x80 ≤ low ∧ high ≤ 0xBF ∧ bits = b - 0xE0 ∧
      (b = 0xE0 → low = 0xA0) ∧ (b = 0xED → high = 0x9F)) ∨
    (following = 3 ∧ 0xF0 ≤ b ∧ b ≤ 0xF4 ∧ 0x80 ≤ low ∧ high ≤ 0xBF ∧ bits = b - 0xF0 ∧
      (b = 0xF0 → low = 0x90) ∧ (b = 0xF4 → high = 0x8F)) := by
  simp only [utf8Lead, Bool.and_eq_true, decide_eq_true_eq, beq_iff_eq] at h
  repeat' split at h
  all_goals
    first
    | (simp only [Option.some.injEq, Utf8Lead.mk.injEq] at h
       omega)
    | cases h

section Pending

variable {offset low high bits taken : Nat} {b : Bytes} {cs : List Char}

/-- A character that is started and read on has an octet in range next. -/
theorem of_utf8Scan_next (missing : Nat)
    (h : utf8Scan offset (some ⟨missing + 2, low, high, bits, taken⟩) b = .ok cs) :
    ∃ x r, b = x :: r ∧ low ≤ x.toNat ∧ x.toNat ≤ high ∧
      utf8Scan offset (some ⟨missing + 1, 0x80, 0xBF, bits * 64 + (x.toNat - 0x80), taken + 1⟩) r =
        .ok cs := by
  cases b with
  | nil => cases h
  | cons x r =>
      simp only [utf8Scan, Bool.and_eq_true, decide_eq_true_eq] at h
      split at h
      · rename_i hrange
        rw [if_neg (by omega)] at h
        exact ⟨x, r, rfl, hrange.1, hrange.2, h⟩
      · cases h

theorem of_utf8Scan_last (h : utf8Scan offset (some ⟨1, low, high, bits, taken⟩) b = .ok cs) :
    ∃ x r ds next, b = x :: r ∧ low ≤ x.toNat ∧ x.toNat ≤ high ∧
      cs = Char.ofNat (bits * 64 + (x.toNat - 0x80)) :: ds ∧ utf8Scan next none r = .ok ds := by
  cases b with
  | nil => cases h
  | cons x r =>
      simp only [utf8Scan, Bool.and_eq_true, decide_eq_true_eq, Nat.le_refl, if_true] at h
      split at h
      · rename_i hrange
        cases hr : utf8Scan (offset + taken + 1) none r with
        | error e =>
            rw [hr] at h
            cases h
        | ok ds =>
            rw [hr] at h
            exact ⟨x, r, ds, _, rfl, hrange.1, hrange.2, (Except.ok.inj h).symm, hr⟩
      · cases h

end Pending

theorem toNat_ofNat_of_valid {n : Nat} (h : n < 0xD800 ∨ 0xDFFF < n ∧ n < 0x110000) :
    (Char.ofNat n).toNat = n := by
  rw [Char.ofNat, dif_pos (show n.isValidChar from h)]
  rfl

theorem octet_eq {x : UInt8} {n : Nat} (h : n = x.toNat) : UInt8.ofNat n = x := by
  rw [h, UInt8.ofNat_toNat]

/-- The first character that is read stands there in its encoding. -/
theorem utf8Scan_none_cons {offset : Nat} {x : UInt8} {r : Bytes} {cs : List Char}
    (h : utf8Scan offset none (x :: r) = .ok cs) :
    ∃ c ds rest next, cs = c :: ds ∧ x :: r = utf8Char c ++ rest ∧ utf8Scan next none rest = .ok ds := by
  cases hl : utf8Lead x.toNat with
  | none =>
      rw [utf8Scan, hl] at h
      cases h
  | some l =>
      obtain ⟨following, low, high, bits⟩ := l
      rcases utf8Lead_cases hl with ⟨rfl, hx, hbits⟩ | ⟨rfl, hx, hx', hlow, hhigh, hbits⟩ |
        ⟨rfl, hx, hx', hlow, hhigh, hbits, he0, hed⟩ | ⟨rfl, hx, hx', hlow, hhigh, hbits, hf0, hf4⟩
      · have hn := toNat_ofNat_of_valid (n := x.toNat) (by omega)
        rw [utf8Scan, hl, hbits] at h
        simp only at h
        cases hr : utf8Scan (offset + 1) none r with
        | error e =>
            rw [hr] at h
            cases h
        | ok ds =>
            rw [hr] at h
            refine ⟨Char.ofNat x.toNat, ds, r, _, (Except.ok.inj h).symm, ?_, hr⟩
            rw [utf8Char_one (by omega), hn, UInt8.ofNat_toNat]
            rfl
      · rw [utf8Scan_lead hl] at h
        obtain ⟨y, r, ds, next, rfl, hy, hy', rfl, hr⟩ := of_utf8Scan_last h
        have hn := toNat_ofNat_of_valid (n := bits * 64 + (y.toNat - 0x80)) (by omega)
        refine ⟨_, ds, r, next, rfl, ?_, hr⟩
        rw [utf8Char_two (by omega) (by omega), hn, octet_eq (x := x) (by omega),
          octet_eq (x := y) (by omega)]
        rfl
      · rw [utf8Scan_lead hl] at h
        obtain ⟨y, r, rfl, hy, hy', h⟩ := of_utf8Scan_next 0 h
        obtain ⟨z, r, ds, next, rfl, hz, hz', rfl, hr⟩ := of_utf8Scan_last h
        have hn := toNat_ofNat_of_valid
          (n := (bits * 64 + (y.toNat - 0x80)) * 64 + (z.toNat - 0x80)) (by omega)
        refine ⟨_, ds, r, next, rfl, ?_, hr⟩
        rw [utf8Char_three (by omega) (by omega), hn, octet_eq (x := x) (by omega),
          octet_eq (x := y) (by omega), octet_eq (x := z) (by omega)]
        rfl
      · rw [utf8Scan_lead hl] at h
        obtain ⟨y, r, rfl, hy, hy', h⟩ := of_utf8Scan_next 1 h
        obtain ⟨z, r, rfl, hz, hz', h⟩ := of_utf8Scan_next 0 h
        obtain ⟨w, r, ds, next, rfl, hw, hw', rfl, hr⟩ := of_utf8Scan_last h
        have hn := toNat_ofNat_of_valid
          (n := ((bits * 64 + (y.toNat - 0x80)) * 64 + (z.toNat - 0x80)) * 64 + (w.toNat - 0x80))
          (by omega)
        refine ⟨_, ds, r, next, rfl, ?_, hr⟩
        rw [utf8Char_four (by omega), hn, octet_eq (x := x) (by omega),
          octet_eq (x := y) (by omega), octet_eq (x := z) (by omega), octet_eq (x := w) (by omega)]
        rfl

theorem eq_flatMap_of_utf8Scan {b : Bytes} : ∀ {offset : Nat} {cs : List Char},
    utf8Scan offset none b = .ok cs → b = cs.flatMap utf8Char := by
  intro offset cs
  induction cs generalizing b offset with
  | nil =>
      intro h
      cases b with
      | nil => rfl
      | cons x r =>
          obtain ⟨c, ds, -, -, hcs, -⟩ := utf8Scan_none_cons h
          cases hcs
  | cons c ds ih =>
      intro h
      cases b with
      | nil => cases h
      | cons x r =>
          obtain ⟨c, ds, rest, next, hcs, hb, hrest⟩ := utf8Scan_none_cons h
          cases hcs
          rw [hb, List.flatMap_cons, ← ih hrest]

/-- Text is read from its octets, and from no others. -/
theorem ofUtf8_eq_ok_iff {b : Bytes} {s : String} : ofUtf8 b = .ok s ↔ b = utf8 s := by
  constructor
  · intro h
    rw [ofUtf8] at h
    cases hb : utf8Scan 0 none b with
    | error e =>
        rw [hb] at h
        cases h
    | ok cs =>
        rw [hb] at h
        obtain rfl := Except.ok.inj h
        rw [utf8, String.toList_ofList]
        exact eq_flatMap_of_utf8Scan hb
  · rintro rfl
    rw [ofUtf8, utf8, utf8Scan_flatMap]
    exact congrArg Except.ok String.ofList_toList

theorem ofUtf8?_eq_some_iff {b : Bytes} {s : String} : ofUtf8? b = some s ↔ b = utf8 s := by
  rw [← ofUtf8_eq_ok_iff, ofUtf8?]
  cases ofUtf8 b <;> simp [Except.toOption]

end SqlSession.Text
