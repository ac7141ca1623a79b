import Mathlib.Data.List.Basic
import SqlSession.Proofs.Text.Utf8
import SqlSession.Url.Percent

/-! # Percent-encoding and its reading

No part of a URL escapes the percent sign or a hexadecimal digit (`Spares`).  So what has been encoded
stays as it is when it is encoded again, and reading an encoded text gives what reading the text itself
would give (`percentOctets_percentEncode`): an escape that stood in the text is taken for one.  Without
such an escape, and only then, the text itself comes back (`percentDecode_percentEncode_eq_ok_iff`). -/

namespace SqlSession.Url

open Text

/-! ### The sets -/

/-- A set of escaped characters without the percent sign and the hexadecimal digits. -/
structure Spares (escaped : Char → Bool) : Prop where
  percent : escaped '%' = false
  digit : ∀ {c : Char} {n : Nat}, hexValue? c = some n → escaped c = false

theorem hexValue?_range {c : Char} {n : Nat} (h : hexValue? c = some n) :
    48 ≤ c.toNat ∧ c.toNat ≤ 102 := by
  simp only [hexValue?, Bool.and_eq_true, decide_eq_true_eq] at h
  split at h
  · omega
  · split at h
    · omega
    · split at h
      · omega
      · cases h

theorem hexValue?_hexDigitUpper : ∀ n < 16, hexValue? (hexDigitUpper n) = some n := by decide

theorem Spares.or {escaped : Char → Bool} (h : Spares escaped) {more : List Char}
    (hpercent : more.contains '%' = false) (hdigit : more.all (fun c => (hexValue? c).isNone) = true) :
    Spares fun c => escaped c || more.contains c where
  percent := by rw [h.percent, hpercent, Bool.or_self]
  digit {c n} hc := by
    have hmem : c ∉ more := fun hm => by
      have hnone := List.all_eq_true.1 hdigit c hm
      rw [hc] at hnone
      cases hnone
    simpa [h.digit hc] using hmem

theorem spares_anywhere : Spares escapedAnywhere where
  percent := rfl
  digit h := by
    have := hexValue?_range h
    simp [escapedAnywhere]
    omega

theorem spares_fragment : Spares escapedInFragment := spares_anywhere.or rfl rfl

theorem spares_path : Spares escapedInPath := spares_fragment.or rfl rfl

theorem spares_login : Spares escapedInLogin := spares_path.or rfl rfl

theorem spares_query : Spares escapedInQuery := spares_anywhere.or rfl rfl

/-! ### Writing -/

section Writing

variable {escaped : Char → Bool}

theorem mem_percentOctet {b : UInt8} {c : Char} (h : c ∈ percentOctet b) :
    c = '%' ∨ ∃ n, hexValue? c = some n := by
  have hb := b.toNat_lt
  simp only [percentOctet, List.mem_cons, List.not_mem_nil, or_false] at h
  rcases h with rfl | rfl | rfl
  · exact .inl rfl
  · exact .inr ⟨_, hexValue?_hexDigitUpper _ (by omega)⟩
  · exact .inr ⟨_, hexValue?_hexDigitUpper _ (by omega)⟩

/-- A character of an encoded text stands in the text, unescaped, or belongs to an escape. -/
theorem mem_percentEncode {s : List Char} {c : Char} (h : c ∈ percentEncode escaped s) :
    (c ∈ s ∧ escaped c = false) ∨ c = '%' ∨ ∃ n, hexValue? c = some n := by
  obtain ⟨d, hd, hc⟩ := List.mem_flatMap.1 h
  unfold percentChar at hc
  split at hc
  · obtain ⟨b, -, hb⟩ := List.mem_flatMap.1 hc
    exact .inr (mem_percentOctet hb)
  · rename_i he
    obtain rfl := List.mem_singleton.1 hc
    exact .inl ⟨hd, by simpa using he⟩

/-- An encoded text has no escaped characters. -/
theorem Spares.not_escaped (h : Spares escaped) {s : List Char} {c : Char}
    (hc : c ∈ percentEncode escaped s) : escaped c = false := by
  rcases mem_percentEncode hc with ⟨-, he⟩ | rfl | ⟨n, hn⟩
  · exact he
  · exact h.percent
  · exact h.digit hn

theorem percentEncode_of_not_escaped {s : List Char} (h : ∀ c ∈ s, escaped c = false) :
    percentEncode escaped s = s := by
  induction s with
  | nil => rfl
  | cons c r ih =>
      rw [percentEncode, List.flatMap_cons, percentChar, h c List.mem_cons_self]
      exact congrArg (c :: ·) (ih fun d hd => h d (List.mem_cons_of_mem _ hd))

theorem percentEncode_cons (c : Char) (r : List Char) :
    percentEncode escaped (c :: r) = percentChar escaped c ++ percentEncode escaped r :=
  List.flatMap_cons

/-- An escaped character is written as an escape. -/
theorem exists_percentEncode_of_escaped {c : Char} (hc : escaped c = true) (r : List Char) :
    ∃ t, percentEncode escaped (c :: r) = '%' :: t := by
  obtain ⟨b, l, hb⟩ := List.exists_cons_of_ne_nil (utf8Char_ne_nil c)
  rw [percentEncode_cons, percentChar, if_pos hc, hb]
  exact ⟨_, rfl⟩

theorem percentEncode_of_spared {c : Char} (hc : escaped c = false) (r : List Char) :
    percentEncode escaped (c :: r) = c :: percentEncode escaped r := by
  rw [percentEncode_cons, percentChar, hc]
  rfl

theorem percentEncode_eq_nil_iff {s : List Char} : percentEncode escaped s = [] ↔ s = [] := by
  constructor
  · intro h
    cases s with
    | nil => rfl
    | cons c r =>
        cases hc : escaped c with
        | false =>
            rw [percentEncode_of_spared hc] at h
            cases h
        | true =>
            obtain ⟨t, ht⟩ := exists_percentEncode_of_escaped hc r
            rw [ht] at h
            cases h
  · rintro rfl
    rfl

end Writing

/-! ### Reading -/

theorem percentOctetsFrom_escape (b : UInt8) (r : List Char) :
    percentOctetsFrom 0 (percentOctet b ++ r) = b :: percentOctetsFrom 0 r := by
  have hb := b.toNat_lt
  have hread : percentOctet? (percentOctet b ++ r) = some b := by
    simp only [percentOctet, List.cons_append, percentOctet?,
      hexValue?_hexDigitUpper _ (show b.toNat / 16 < 16 by omega),
      hexValue?_hexDigitUpper _ (show b.toNat % 16 < 16 by omega)]
    exact congrArg some (octet_eq (by omega))
  rw [percentOctet] at hread ⊢
  simp only [List.cons_append, List.nil_append] at hread ⊢
  rw [percentOctetsFrom, hread]
  rfl

theorem percentOctetsFrom_escapes : ∀ (l : Bytes) (r : List Char),
    percentOctetsFrom 0 (l.flatMap percentOctet ++ r) = l ++ percentOctetsFrom 0 r
  | [], _ => rfl
  | b :: l, r => by
      rw [List.flatMap_cons, List.append_assoc, percentOctetsFrom_escape, percentOctetsFrom_escapes l r]
      rfl

theorem percentOctet?_of_ne {c : Char} (hc : c ≠ '%') (r : List Char) :
    percentOctet? (c :: r) = none := by
  unfold percentOctet?
  split
  · rename_i he
    exact absurd (List.cons.inj he).1 hc
  · rfl

theorem percentOctet?_of_first {a : Char} (ha : hexValue? a = none) (r : List Char) :
    percentOctet? ('%' :: a :: r) = none := by
  cases r with
  | nil => rfl
  | cons b r =>
      rw [percentOctet?, ha]
      rfl

theorem percentOctet?_of_second {a b : Char} (hb : hexValue? b = none) (r : List Char) :
    percentOctet? ('%' :: a :: b :: r) = none := by
  rw [percentOctet?, hb]
  cases hexValue? a <;> rfl

/-- An escape is a percent sign and two digits. -/
theorem exists_of_percentOctet? {c : Char} {r : List Char} {x : UInt8}
    (h : percentOctet? (c :: r) = some x) :
    c = '%' ∧ ∃ a b t m n, r = a :: b :: t ∧ hexValue? a = some m ∧ hexValue? b = some n := by
  unfold percentOctet? at h
  split at h
  · rename_i a b t he
    obtain ⟨rfl, rfl⟩ := List.cons.inj he
    cases ha : hexValue? a with
    | none =>
        rw [ha] at h
        cases h
    | some m =>
        cases hb : hexValue? b with
        | none =>
            rw [ha, hb] at h
            cases h
        | some n => exact ⟨rfl, a, b, t, m, n, rfl, ha, hb⟩
  · cases h

section Encoded

variable {escaped : Char → Bool} (h : Spares escaped)
include h

theorem Spares.hexValue?_eq_none {c : Char} (hc : escaped c = true) : hexValue? c = none := by
  cases hv : hexValue? c with
  | none => rfl
  | some n =>
      rw [h.digit hv] at hc
      cases hc

/-- What stands after a percent sign are the digits of an escape before encoding if they are after. -/
theorem percentOctet?_percentEncode (r : List Char) :
    percentOctet? ('%' :: percentEncode escaped r) = percentOctet? ('%' :: r) := by
  have hmark : hexValue? '%' = none := rfl
  cases r with
  | nil => rfl
  | cons a r =>
      cases ha : escaped a with
      | true =>
          obtain ⟨t, ht⟩ := exists_percentEncode_of_escaped ha r
          rw [ht, percentOctet?_of_first hmark, percentOctet?_of_first (h.hexValue?_eq_none ha)]
      | false =>
          rw [percentEncode_of_spared ha]
          cases r with
          | nil => rfl
          | cons b r =>
              cases hb : escaped b with
              | true =>
                  obtain ⟨t, ht⟩ := exists_percentEncode_of_escaped hb r
                  rw [ht, percentOctet?_of_second hmark,
                    percentOctet?_of_second (h.hexValue?_eq_none hb)]
              | false =>
                  rw [percentEncode_of_spared hb]
                  rfl

/-- An encoded text stands for what the text itself stands for. -/
theorem percentOctetsFrom_percentEncode (s : List Char) : ∀ skip : Nat,
    (∀ c ∈ s.take skip, escaped c = false) →
      percentOctetsFrom skip (percentEncode escaped s) = percentOctetsFrom skip s := by
  induction s with
  | nil => exact fun skip _ => rfl
  | cons c r ih =>
      intro skip hskip
      cases skip with
      | succ skip =>
          rw [percentEncode_of_spared (hskip c List.mem_cons_self)]
          exact ih skip fun d hd => hskip d (List.mem_cons_of_mem _ hd)
      | zero =>
          have hrest := ih 0 nofun
          cases hc : escaped c with
          | true =>
              have hne : c ≠ '%' := by
                rintro rfl
                rw [h.percent] at hc
                cases hc
              rw [percentEncode_cons, percentChar, if_pos hc, percentOctetsFrom_escapes, hrest,
                percentOctetsFrom, percentOctet?_of_ne hne]
          | false =>
              have hsame : percentOctet? (c :: percentEncode escaped r) = percentOctet? (c :: r) := by
                by_cases hm : c = '%'
                · subst hm
                  exact percentOctet?_percentEncode h r
                · rw [percentOctet?_of_ne hm, percentOctet?_of_ne hm]
              rw [percentEncode_of_spared hc, percentOctetsFrom, percentOctetsFrom, hsame]
              split
              · rename_i x hx
                obtain ⟨-, a, b, t, m, n, rfl, ha, hb⟩ := exists_of_percentOctet? hx
                refine congrArg (x :: ·) (ih 2 ?_)
                simp [h.digit ha, h.digit hb]
              · rw [hrest]

theorem percentOctets_percentEncode (s : List Char) :
    percentOctets (percentEncode escaped s) = percentOctets s :=
  percentOctetsFrom_percentEncode h s 0 nofun

end Encoded

/-! ### Escapes in a text -/

/-- A percent sign with two hexadecimal digits after it stands in a text. -/
def HasEscape (s : List Char) : Prop :=
  ∃ before a b after, s = before ++ '%' :: a :: b :: after ∧
    (hexValue? a).isSome ∧ (hexValue? b).isSome

theorem hasEscape_cons_iff {c : Char} {r : List Char} :
    HasEscape (c :: r) ↔ (percentOctet? (c :: r)).isSome ∨ HasEscape r := by
  constructor
  · rintro ⟨before, a, b, after, hs, ha, hb⟩
    cases before with
    | nil =>
        obtain ⟨rfl, rfl⟩ := List.cons.inj hs
        obtain ⟨m, hm⟩ := Option.isSome_iff_exists.1 ha
        obtain ⟨n, hn⟩ := Option.isSome_iff_exists.1 hb
        refine .inl ?_
        rw [percentOctet?, hm, hn]
        rfl
    | cons d before =>
        obtain ⟨rfl, rfl⟩ := List.cons.inj hs
        exact .inr ⟨before, a, b, after, rfl, ha, hb⟩
  · rintro (h | ⟨before, a, b, after, rfl, ha, hb⟩)
    · obtain ⟨x, hx⟩ := Option.isSome_iff_exists.1 h
      obtain ⟨rfl, a, b, t, m, n, rfl, ha, hb⟩ := exists_of_percentOctet? hx
      exact ⟨[], a, b, t, rfl, by rw [ha]; rfl, by rw [hb]; rfl⟩
    · exact ⟨c :: before, a, b, after, rfl, ha, hb⟩

theorem one_le_length_utf8Char (c : Char) : 1 ≤ (utf8Char c).length :=
  List.length_pos_of_ne_nil (utf8Char_ne_nil c)

/-- An escape makes one octet of three characters. -/
theorem length_of_escape {c : Char} {r : List Char} {x : UInt8} (hx : percentOctet? (c :: r) = some x)
    (hrest : (percentOctetsFrom 2 r).length ≤ ((r.drop 2).flatMap utf8Char).length) :
    (percentOctetsFrom 0 (c :: r)).length < ((c :: r).flatMap utf8Char).length := by
  obtain ⟨-, a, b, t, m, n, rfl, -⟩ := exists_of_percentOctet? hx
  have hc := one_le_length_utf8Char c
  have ha := one_le_length_utf8Char a
  simp only [percentOctetsFrom, hx, List.length_cons, List.flatMap_cons, List.length_append,
    List.drop_succ_cons, List.drop_zero] at hrest ⊢
  omega

/-- Reading makes nothing longer. -/
theorem length_percentOctetsFrom_le (s : List Char) : ∀ skip : Nat,
    (percentOctetsFrom skip s).length ≤ ((s.drop skip).flatMap utf8Char).length := by
  induction s with
  | nil => exact fun skip => Nat.zero_le _
  | cons c r ih =>
      intro skip
      cases skip with
      | succ skip => exact ih skip
      | zero =>
          cases hx : percentOctet? (c :: r) with
          | some x => exact Nat.le_of_lt (length_of_escape hx (ih 2))
          | none =>
              have hrest := ih 0
              simp only [percentOctetsFrom, hx, List.drop_zero, List.flatMap_cons,
                List.length_append] at hrest ⊢
              omega

/-- Reading makes a text with an escape shorter. -/
theorem length_percentOctets_lt {s : List Char} (h : HasEscape s) :
    (percentOctets s).length < (s.flatMap utf8Char).length := by
  induction s with
  | nil =>
      obtain ⟨before, a, b, after, hs, -⟩ := h
      cases before <;> cases hs
  | cons c r ih =>
      cases hx : percentOctet? (c :: r) with
      | some x => exact length_of_escape hx (length_percentOctetsFrom_le r 2)
      | none =>
          have hr : HasEscape r := by
            rcases hasEscape_cons_iff.1 h with hsome | hr
            · rw [hx] at hsome
              cases hsome
            · exact hr
          have hrest := ih hr
          simp only [percentOctets, percentOctetsFrom, hx, List.flatMap_cons,
            List.length_append] at hrest ⊢
          omega

/-- A text stands for itself exactly if there is no escape in it. -/
theorem percentOctets_eq_iff {s : List Char} :
    percentOctets s = s.flatMap utf8Char ↔ ¬ HasEscape s := by
  constructor
  · intro h he
    have hlt := length_percentOctets_lt he
    rw [h] at hlt
    exact Nat.lt_irrefl _ hlt
  · intro h
    induction s with
    | nil => rfl
    | cons c r ih =>
        rw [hasEscape_cons_iff, not_or, Option.not_isSome_iff_eq_none] at h
        rw [percentOctets, percentOctetsFrom, h.1, List.flatMap_cons, ← ih h.2]
        rfl

/-- An encoded text is read back exactly if there is no escape in it. -/
theorem percentDecode_percentEncode_eq_ok_iff {escaped : Char → Bool} (h : Spares escaped)
    {s : String} :
    percentDecode (percentEncode escaped s.toList) = .ok s ↔ ¬ HasEscape s.toList := by
  rw [percentDecode, percentOctets_percentEncode h, ofUtf8_eq_ok_iff, utf8, percentOctets_eq_iff]

end SqlSession.Url
