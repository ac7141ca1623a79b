import Mathlib
import SqlSession.Postgres.Numeric

/-! # Exactness of binary numerics

The groups of a numeric are its digits to the base ten thousand, the first one at the power that the
weight gives.  The text that is written for it has the digits before the point and as many after the point
as the header says, and the number that they denote is that of the groups, cut off there
(`decoding_exact`).

Both sides go through the number that the groups before a position make (`Numeric.before`): reading the
digits of one more group takes it to that of the next position, and it is the whole part of the value of
the groups, shifted to that position. -/

namespace SqlSession.Postgres

/-! ### Words of a buffer -/

/-- The 16-bit word at a position, counted in words. -/
def wordAt (b : Bytes) (i : Nat) : Nat := word (b.getD (2 * i) 0) (b.getD (2 * i + 1) 0)

theorem wordsOf_eq : ∀ b : Bytes, wordsOf b = (List.range (b.length / 2)).map (wordAt b)
  | [] => rfl
  | [_] => by simp [wordsOf]
  | a :: c :: r => by
      have hlen : (a :: c :: r).length / 2 = r.length / 2 + 1 := by
        rw [List.length_cons, List.length_cons]
        omega
      rw [wordsOf, wordsOf_eq r, hlen, List.range_succ_eq_map, List.map_cons, List.map_map]
      rfl

theorem wordAt_lt (b : Bytes) (i : Nat) : wordAt b i < 65536 := by
  have h1 := (b.getD (2 * i) 0).toNat_lt
  have h2 := (b.getD (2 * i + 1) 0).toNat_lt
  unfold wordAt word
  omega

/-- The weight in a header. -/
def weightOf (b : Bytes) : Int := (BitVec.ofNat 16 (wordAt b 1)).toInt

/-- The groups after a header. -/
def groupsOf (b : Bytes) : List Nat := (List.range (wordAt b 0)).map fun i => wordAt b (4 + i)

namespace Numeric

theorem ofBytes?_of_short {b : Bytes} (h : b.length < 8) : ofBytes? b = none := by
  have hk : b.length / 2 = 0 ∨ b.length / 2 = 1 ∨ b.length / 2 = 2 ∨ b.length / 2 = 3 := by omega
  rw [ofBytes?, wordsOf_eq]
  rcases hk with hk | hk | hk | hk <;> rw [hk] <;> rfl

/-- A buffer with a header is taken apart into what its words say, if the groups are there. -/
theorem ofBytes?_of_header {b : Bytes} (h : 8 ≤ b.length) :
    ofBytes? b =
      if wordAt b 2 = nanSign then some ⟨[], weightOf b, wordAt b 2, wordAt b 3⟩
      else if b.length < 8 + 2 * wordAt b 0 then none
      else some ⟨groupsOf b, weightOf b, wordAt b 2, wordAt b 3⟩ := by
  obtain ⟨k, hk⟩ : ∃ k, b.length / 2 = 4 + k := ⟨b.length / 2 - 4, by omega⟩
  have hwords : wordsOf b = wordAt b 0 :: wordAt b 1 :: wordAt b 2 :: wordAt b 3 ::
      (List.range k).map fun i => wordAt b (4 + i) := by
    rw [wordsOf_eq, hk, List.range_add, List.map_append, List.map_map]
    rfl
  have hsigned : (if wordAt b 1 < 0x8000 then (wordAt b 1 : Int) else (wordAt b 1 : Int) - 0x10000) =
      weightOf b := by
    have hlt := wordAt_lt b 1
    rw [weightOf, BitVec.toInt_eq_toNat_cond, BitVec.toNat_ofNat, Nat.mod_eq_of_lt hlt]
    split <;> split <;> omega
  have hshort : (List.range k).length < wordAt b 0 ↔ b.length < 8 + 2 * wordAt b 0 := by
    rw [List.length_range]
    omega
  simp only [ofBytes?, hwords, hsigned, List.length_map, hshort]
  split
  · rfl
  · split
    · rfl
    · rename_i hlong
      rw [← List.map_take, List.take_range, Nat.min_eq_left (by omega)]
      rfl

/-! ### Digits -/

end Numeric

theorem digit_lt {c : Char} (h : c.isDigit) : c.toNat - '0'.toNat < 10 := by
  have h0 : '0'.toNat = 48 := rfl
  have h9 : c.toNat ≤ 57 := by
    simp only [Char.isDigit, Bool.and_eq_true, decide_eq_true_eq] at h
    exact UInt32.le_iff_toNat_le.1 h.2
  omega

theorem ofDigitChars_lt {l : List Char} (h : ∀ c ∈ l, c.isDigit) :
    Nat.ofDigitChars 10 l 0 < 10 ^ l.length := by
  induction l using List.reverseRecOn with
  | nil => simp
  | append_singleton l c ih =>
      have hl := ih fun d hd => h d (List.mem_append_left _ hd)
      have hc := digit_lt (h c (by simp))
      rw [Nat.ofDigitChars_append, Nat.ofDigitChars_cons, Nat.ofDigitChars_nil, List.length_append,
        List.length_singleton, pow_succ]
      omega

/-- Digits left out at the end divide the number. -/
theorem ofDigitChars_append_div {l m : List Char} (h : ∀ c ∈ m, c.isDigit) :
    Nat.ofDigitChars 10 (l ++ m) 0 / 10 ^ m.length = Nat.ofDigitChars 10 l 0 := by
  rw [Nat.ofDigitChars_append, Nat.ofDigitChars_eq_ofDigitChars_zero, Nat.mul_add_div (by positivity),
    Nat.div_eq_of_lt (ofDigitChars_lt h), Nat.add_zero]

namespace Numeric

theorem groupText_eq (g : Nat) :
    groupText g = List.replicate (4 - (Nat.toDigits 10 g).length) '0' ++ Nat.toDigits 10 g := by
  rw [groupText, Calendar.padded, String.toList_ofList]

theorem length_toDigits_le {g : Nat} (hg : g ≤ 9999) : (Nat.toDigits 10 g).length ≤ 4 :=
  (Nat.length_toDigits_le_iff (by norm_num) (by norm_num)).2 (by omega)

theorem length_groupText {g : Nat} (hg : g ≤ 9999) : (groupText g).length = 4 := by
  have := length_toDigits_le hg
  rw [groupText_eq, List.length_append, List.length_replicate]
  omega

theorem isDigit_of_mem_groupText {g : Nat} {c : Char} (h : c ∈ groupText g) : c.isDigit := by
  rw [groupText_eq, List.mem_append] at h
  rcases h with h | h
  · rw [List.eq_of_mem_replicate h]
    rfl
  · exact Nat.isDigit_of_mem_toDigits (by norm_num) (by norm_num) h

theorem ofDigitChars_groupText {g : Nat} (hg : g ≤ 9999) (init : Nat) :
    Nat.ofDigitChars 10 (groupText g) init = 10000 * init + g := by
  have hlen := length_toDigits_le hg
  rw [groupText_eq, Nat.ofDigitChars_append, Nat.ofDigitChars_replicate_zero,
    Nat.ofDigitChars_eq_ofDigitChars_zero, Nat.ofDigitChars_ten_toDigits, ← Nat.mul_assoc, ← pow_add,
    Nat.add_sub_cancel' hlen]
  rfl

/-! ### The groups as a number -/

/-- The number that the first so many groups make; groups that are left out are zero. -/
def leading : Nat → List Nat → Nat
  | 0, _ => 0
  | _ + 1, [] => 0
  | k + 1, d :: r => d * 10000 ^ k + leading k r

theorem leading_succ : ∀ (k : Nat) (l : List Nat), leading (k + 1) l = 10000 * leading k l + l.getD k 0
  | 0, [] => rfl
  | _ + 1, [] => rfl
  | 0, d :: r => by simp [leading]
  | k + 1, d :: r => by
      rw [leading, leading_succ k r, leading, List.getD_cons_succ, pow_succ]
      ring

/-- The number that groups make as digits after a point. -/
def after : List Nat → ℚ
  | [] => 0
  | d :: r => (d + after r) / 10000

theorem after_nonneg : ∀ l, 0 ≤ after l
  | [] => le_rfl
  | d :: r => by
      have := after_nonneg r
      unfold after
      positivity

theorem after_lt_one : ∀ {l : List Nat}, (∀ d ∈ l, d ≤ 9999) → after l < 1
  | [], _ => zero_lt_one
  | d :: r, h => by
      have hr := after_lt_one fun e he => h e (List.mem_cons_of_mem _ he)
      have hd : (d : ℚ) ≤ 9999 := by exact_mod_cast h d List.mem_cons_self
      rw [after, div_lt_one (by norm_num)]
      linarith

/-- Moving the point behind so many groups leaves these before it. -/
theorem floor_after_mul : ∀ (k : Nat) {l : List Nat}, (∀ d ∈ l, d ≤ 9999) →
    ⌊after l * 10000 ^ k⌋₊ = leading k l
  | 0, l, h => by
      rw [pow_zero, mul_one, leading]
      exact Nat.floor_eq_zero.2 (after_lt_one h)
  | k + 1, [], _ => by simp [after, leading]
  | k + 1, d :: r, h => by
      have hr := floor_after_mul k fun e he => h e (List.mem_cons_of_mem _ he)
      have hshift : after (d :: r) * 10000 ^ (k + 1) =
          after r * 10000 ^ k + (d * 10000 ^ k : ℕ) := by
        rw [after, pow_succ]
        push_cast
        ring
      have hnonneg : 0 ≤ after r * 10000 ^ k := mul_nonneg (after_nonneg r) (by positivity)
      rw [hshift, Nat.floor_add_natCast hnonneg, hr, leading, Nat.add_comm]

/-- The sum of the groups, each at its power. -/
def magnitude (n : Numeric) : ℚ :=
  ∑ i ∈ Finset.range n.groups.length, (n.groups.getD i 0 : ℚ) * 10000 ^ (n.weight - i)

theorem sum_groups : ∀ (l : List Nat) (w : Int),
    ∑ i ∈ Finset.range l.length, (l.getD i 0 : ℚ) * 10000 ^ (w - i) = after l * 10000 ^ (w + 1)
  | [], w => by simp [after]
  | d :: r, w => by
      have hr : ∑ i ∈ Finset.range r.length, ((d :: r).getD (i + 1) 0 : ℚ) * 10000 ^ (w - (i + 1 : ℕ)) =
          after r * 10000 ^ w := by
        rw [← sub_add_cancel w 1, ← sum_groups r (w - 1)]
        refine Finset.sum_congr rfl fun i _ => ?_
        rw [List.getD_cons_succ]
        congr 2
        push_cast
        ring
      rw [List.length_cons, Finset.sum_range_succ', hr, after, zpow_add₀ (by norm_num)]
      simp
      ring

theorem magnitude_nonneg (n : Numeric) : 0 ≤ n.magnitude :=
  Finset.sum_nonneg fun i _ => by positivity

/-- The number that the groups before a position make. -/
def before (n : Numeric) (pos : Int) : Nat := leading pos.toNat n.groups

variable {n : Numeric}

theorem before_of_nonpos {pos : Int} (h : pos ≤ 0) : n.before pos = 0 := by
  rw [before, Int.toNat_of_nonpos h]
  rfl

theorem before_succ (pos : Int) : n.before (pos + 1) = 10000 * n.before pos + n.groupAt pos := by
  by_cases h : pos < 0
  · rw [before_of_nonpos (by omega), before_of_nonpos (by omega), groupAt, if_pos h]
  · rw [before, before, groupAt, if_neg h, show (pos + 1).toNat = pos.toNat + 1 by omega, leading_succ]

/-- The groups before a position are the whole part of the value, shifted to that position. -/
theorem floor_magnitude (hn : ∀ g ∈ n.groups, g ≤ 9999) (k : Nat) :
    ⌊n.magnitude * 10000 ^ k⌋₊ = n.before (n.weight + 1 + k) := by
  have hshift : n.magnitude * 10000 ^ k = after n.groups * 10000 ^ (n.weight + 1 + k) := by
    rw [magnitude, sum_groups, mul_assoc, ← zpow_natCast, ← zpow_add₀ (by norm_num)]
  rw [hshift]
  by_cases h : 0 ≤ n.weight + 1 + k
  · obtain ⟨m, hm⟩ := Int.eq_ofNat_of_zero_le h
    rw [hm, zpow_natCast, floor_after_mul m hn]
    rfl
  · rw [before_of_nonpos (by omega), Nat.floor_eq_zero]
    calc after n.groups * 10000 ^ (n.weight + 1 + k)
        ≤ after n.groups * 1 :=
          mul_le_mul_of_nonneg_left (zpow_le_one_of_nonpos₀ (by norm_num) (by omega)) (after_nonneg _)
      _ < 1 := by
          rw [mul_one]
          exact after_lt_one hn

/-! ### The text -/

theorem groupAt_le (hn : ∀ g ∈ n.groups, g ≤ 9999) (pos : Int) : n.groupAt pos ≤ 9999 := by
  unfold groupAt
  split
  · omega
  · rw [List.getD_eq_getElem?_getD]
    cases h : n.groups[pos.toNat]? with
    | none => exact Nat.zero_le _
    | some g => exact hn g (List.mem_of_getElem? h)

/-- So many groups from a position on, four digits each. -/
def groupsText (n : Numeric) (pos : Int) (k : Nat) : List Char :=
  (List.range k).flatMap fun i : Nat => groupText (n.groupAt (pos + (i : Int)))

theorem groupsText_succ (pos : Int) (k : Nat) :
    n.groupsText pos (k + 1) = groupText (n.groupAt pos) ++ n.groupsText (pos + 1) k := by
  rw [groupsText, List.range_succ_eq_map, List.flatMap_cons, List.flatMap_map, Nat.cast_zero, add_zero]
  congr 2
  funext i
  rw [Nat.cast_succ, add_comm (i : Int) 1, ← add_assoc]

theorem isDigit_of_mem_groupsText {pos : Int} {k : Nat} {c : Char} (h : c ∈ n.groupsText pos k) :
    c.isDigit := by
  obtain ⟨i, -, hi⟩ := List.mem_flatMap.1 h
  exact isDigit_of_mem_groupText hi

theorem length_groupsText (hn : ∀ g ∈ n.groups, g ≤ 9999) (k : Nat) :
    ∀ pos, (n.groupsText pos k).length = 4 * k := by
  induction k with
  | zero => exact fun pos => rfl
  | succ k ih =>
      intro pos
      rw [groupsText_succ, List.length_append, length_groupText (groupAt_le hn pos), ih]
      omega

/-- Reading on from the groups before a position gives those before the position that is reached. -/
theorem ofDigitChars_groupsText (hn : ∀ g ∈ n.groups, g ≤ 9999) (k : Nat) :
    ∀ pos, Nat.ofDigitChars 10 (n.groupsText pos k) (n.before pos) = n.before (pos + k) := by
  induction k with
  | zero => exact fun pos => by rw [Nat.cast_zero, add_zero]; rfl
  | succ k ih =>
      intro pos
      rw [groupsText_succ, Nat.ofDigitChars_append, ofDigitChars_groupText (groupAt_le hn pos),
        ← before_succ, ih, Nat.cast_succ, add_comm (k : Int) 1, ← add_assoc]

/-- The digits from a position on are those of the groups there, as long as these last. -/
theorem digitsFrom_eq (hn : ∀ g ∈ n.groups, g ≤ 9999) (fuel : Nat) :
    ∀ {count k : Nat} (pos : Int), count ≤ fuel → count ≤ 4 * k →
      n.digitsFrom fuel count pos = (n.groupsText pos k).take count := by
  induction fuel with
  | zero =>
      intro count k pos hf _
      obtain rfl : count = 0 := by omega
      rfl
  | succ fuel ih =>
      intro count k pos hf hk
      rw [digitsFrom]
      split
      · rename_i h0
        rw [h0, List.take_zero]
      · obtain ⟨k, rfl⟩ : ∃ j, k = j + 1 := ⟨k - 1, by omega⟩
        have hlen := length_groupText (groupAt_le hn pos)
        have hrest : n.digitsFrom fuel (count - 4) (pos + 1) =
            (n.groupsText (pos + 1) k).take (count - 4) := ih (pos + 1) (by omega) (by omega)
        rw [groupsText_succ, List.take_append, hlen, ← hrest]
        simp only [hlen]

theorem fraction_eq (hn : ∀ g ∈ n.groups, g ≤ 9999) :
    n.fraction = (n.groupsText (n.weight + 1) n.scale).take n.scale :=
  digitsFrom_eq hn n.scale _ le_rfl (by omega)

theorem wholeText_of_nonneg (h : 0 ≤ n.weight) :
    n.wholeText = Nat.toDigits 10 (n.groupAt 0) ++ n.groupsText 1 n.weight.toNat := by
  have hpos (i : Nat) : ((i + 1 : Nat) : Int) = 1 + i := by omega
  simp only [wholeText, if_neg (show ¬ n.weight < 0 by omega), groupsText, hpos]

theorem wholeText_ne_nil : n.wholeText ≠ [] := by
  by_cases h : n.weight < 0
  · rw [wholeText, if_pos h]
    exact List.cons_ne_nil _ _
  · rw [wholeText_of_nonneg (by omega)]
    exact List.append_ne_nil_of_left_ne_nil Nat.toDigits_ne_nil _

theorem isDigit_of_mem_wholeText {c : Char} (h : c ∈ n.wholeText) : c.isDigit := by
  by_cases hw : n.weight < 0
  · rw [wholeText, if_pos hw, List.mem_singleton] at h
    rw [h]
    rfl
  · rw [wholeText_of_nonneg (by omega), List.mem_append] at h
    rcases h with h | h
    · exact Nat.isDigit_of_mem_toDigits (by norm_num) (by norm_num) h
    · exact isDigit_of_mem_groupsText h

/-- The digits before the point make the number of the groups there. -/
theorem ofDigitChars_wholeText (hn : ∀ g ∈ n.groups, g ≤ 9999) :
    Nat.ofDigitChars 10 n.wholeText 0 = n.before (n.weight + 1) := by
  by_cases h : n.weight < 0
  · rw [before_of_nonpos (by omega), wholeText, if_pos h]
    rfl
  · have hfirst : n.groupAt 0 = n.before 1 := by
      have := before_succ (n := n) 0
      rw [before_of_nonpos le_rfl] at this
      simpa using this.symm
    rw [wholeText_of_nonneg (by omega), Nat.ofDigitChars_append, Nat.ofDigitChars_ten_toDigits, hfirst,
      ofDigitChars_groupsText hn]
    congr 1
    omega

/-- All digits together make the whole part of the value, shifted by the digits after the point. -/
theorem ofDigitChars_digits (hn : ∀ g ∈ n.groups, g ≤ 9999) :
    Nat.ofDigitChars 10 (n.wholeText ++ n.fraction) 0 = ⌊n.magnitude * 10 ^ n.scale⌋₊ := by
  set full := n.groupsText (n.weight + 1) n.scale with hfull
  have hlen : (full.drop n.scale).length = 3 * n.scale := by
    rw [List.length_drop, length_groupsText hn]
    omega
  have hsplit : n.wholeText ++ full = (n.wholeText ++ n.fraction) ++ full.drop n.scale := by
    rw [fraction_eq hn, List.append_assoc, List.take_append_drop]
  have hvalue : Nat.ofDigitChars 10 (n.wholeText ++ full) 0 = ⌊n.magnitude * 10000 ^ n.scale⌋₊ := by
    rw [Nat.ofDigitChars_append, ofDigitChars_wholeText hn, ofDigitChars_groupsText hn,
      floor_magnitude hn]
  have hshift : n.magnitude * 10 ^ n.scale =
      n.magnitude * 10000 ^ n.scale / (10 ^ (3 * n.scale) : ℕ) := by
    have h4 : (10000 : ℚ) ^ n.scale = 10 ^ n.scale * 10 ^ (3 * n.scale) := by
      rw [← pow_add, show n.scale + 3 * n.scale = 4 * n.scale by ring, pow_mul]
      norm_num
    rw [h4]
    push_cast
    field_simp
  have hcut := ofDigitChars_append_div (l := n.wholeText ++ n.fraction) (m := full.drop n.scale)
    fun c hc => isDigit_of_mem_groupsText (List.mem_of_mem_drop hc)
  rw [hshift, Nat.floor_div_natCast, ← hvalue, hsplit, ← hlen, hcut]

/-! ### Exactness -/

/-- A number cut off towards zero after so many digits behind the point. -/
def truncated (scale : Nat) (x : ℚ) : ℚ :=
  ((if 0 ≤ x then ⌊x * 10 ^ scale⌋ else ⌈x * 10 ^ scale⌉ : ℤ) : ℚ) / 10 ^ scale

theorem truncated_of_nonneg (scale : Nat) {x : ℚ} (hx : 0 ≤ x) :
    truncated scale x = ⌊x * 10 ^ scale⌋₊ / 10 ^ scale := by
  rw [truncated, if_pos hx, natCast_floor_eq_intCast_floor (by positivity)]

theorem truncated_neg (scale : Nat) {x : ℚ} (hx : 0 ≤ x) :
    truncated scale (-x) = -truncated scale x := by
  rcases hx.eq_or_lt with rfl | hpos
  · simp [truncated]
  · rw [truncated, truncated, if_neg (by linarith), if_pos hx, neg_mul, Int.ceil_neg]
    push_cast
    ring

/-- The number in a buffer: the sum of its groups, each at its power, with the sign. -/
def valueOf (b : Bytes) : ℚ :=
  (if wordAt b 2 = negativeSign then -1 else 1) *
    ∑ i ∈ Finset.range (wordAt b 0), (wordAt b (4 + i) : ℚ) * 10000 ^ (weightOf b - i)

theorem valueOf_eq {b : Bytes} {sign scale : Nat} :
    valueOf b = (if wordAt b 2 = negativeSign then -1 else 1) *
      magnitude ⟨groupsOf b, weightOf b, sign, scale⟩ := by
  have hlen : (groupsOf b).length = wordAt b 0 := by
    rw [groupsOf, List.length_map, List.length_range]
  rw [valueOf, magnitude, hlen]
  congr 1
  refine Finset.sum_congr rfl fun i hi => ?_
  have hget : (groupsOf b)[i]? = some (wordAt b (4 + i)) := by
    rw [groupsOf, List.getElem?_map, List.getElem?_range (Finset.mem_range.1 hi)]
    rfl
  rw [List.getD_eq_getElem?_getD, hget, Option.getD_some]

/-- **A numeric is decoded exactly.**  Reading a buffer fails exactly if its header is not all there or,
unless it is not a number, a group is missing.  With groups of four digits and one of the two signs, the
text is a minus sign for the negative one, at least one digit, and after a point as many digits as the
header says, if it says any; they denote the number in the buffer, cut off towards zero there. -/
theorem decoding_exact (b : Bytes) :
    (ofBytes? b = none ↔
      b.length < 8 ∨ wordAt b 2 ≠ nanSign ∧ b.length < 8 + 2 * wordAt b 0) ∧
    (8 + 2 * wordAt b 0 ≤ b.length → wordAt b 2 = 0 ∨ wordAt b 2 = negativeSign →
      (∀ i < wordAt b 0, wordAt b (4 + i) ≤ 9999) →
      ∃ n, ofBytes? b = some n ∧ ∃ whole fraction : List Char,
        n.text.toList = (if wordAt b 2 = negativeSign then ['-'] else []) ++ whole ++
          (if wordAt b 3 = 0 then [] else '.' :: fraction) ∧
        whole ≠ [] ∧ (∀ c ∈ whole ++ fraction, c.isDigit) ∧ fraction.length = wordAt b 3 ∧
        (if wordAt b 2 = negativeSign then -1 else 1) *
            ((Nat.ofDigitChars 10 (whole ++ fraction) 0 : ℚ) / 10 ^ fraction.length) =
          truncated (wordAt b 3) (valueOf b)) := by
  refine ⟨?_, fun hlen hsign hgroups => ?_⟩
  · by_cases h : b.length < 8
    · exact ⟨fun _ => .inl h, fun _ => ofBytes?_of_short h⟩
    · rw [ofBytes?_of_header (by omega)]
      by_cases hnan : wordAt b 2 = nanSign
      · simp [h, hnan]
      · by_cases hshort : b.length < 8 + 2 * wordAt b 0
        · simp [hnan, hshort]
        · simp [h, hnan, hshort]
  · have hnan : wordAt b 2 ≠ nanSign := by
      rcases hsign with h | h <;> rw [h] <;> decide
    set n : Numeric := ⟨groupsOf b, weightOf b, wordAt b 2, wordAt b 3⟩ with hn
    have hread : ofBytes? b = some n := by
      rw [ofBytes?_of_header (by omega), if_neg hnan, if_neg (by omega)]
    have hbound : ∀ g ∈ n.groups, g ≤ 9999 := by
      intro g hg
      obtain ⟨i, hi, rfl⟩ := List.mem_map.1 hg
      exact hgroups i (List.mem_range.1 hi)
    have hscale : n.fraction.length = n.scale := by
      rw [fraction_eq hbound, List.length_take, length_groupsText hbound]
      omega
    refine ⟨n, hread, n.wholeText, n.fraction, ?_, wholeText_ne_nil, ?_, hscale, ?_⟩
    · rw [text, if_neg hnan, String.toList_ofList]
    · intro c hc
      rcases List.mem_append.1 hc with hc | hc
      · exact isDigit_of_mem_wholeText hc
      · rw [fraction_eq hbound] at hc
        exact isDigit_of_mem_groupsText (List.mem_of_mem_take hc)
    · have hvalue : valueOf b = (if wordAt b 2 = negativeSign then -1 else 1) * n.magnitude :=
        valueOf_eq
      have hmag := magnitude_nonneg n
      rw [hvalue, ofDigitChars_digits hbound, hscale]
      split
      · rw [neg_one_mul, neg_one_mul, truncated_neg _ hmag, truncated_of_nonneg _ hmag]
      · rw [one_mul, one_mul, truncated_of_nonneg _ hmag]

/-- Two groups of a negative number, the first of them eight digits behind the point, of which ten are to
be shown. -/
def lowGroups : Bytes := [0, 2, 0xFF, 0xFE, 0x40, 0, 0, 10, 0, 12, 0x0D, 0x80]

theorem decoding_exact_lowGroups :
    8 + 2 * wordAt lowGroups 0 ≤ lowGroups.length ∧
    (wordAt lowGroups 2 = 0 ∨ wordAt lowGroups 2 = negativeSign) ∧
    (∀ i < wordAt lowGroups 0, wordAt lowGroups (4 + i) ≤ 9999) ∧
    ∃ n, ofBytes? lowGroups = some n ∧ n.text = "-0.0000001234" ∧
      ∃ whole fraction : List Char, n.text.toList = ['-'] ++ whole ++ '.' :: fraction ∧
        fraction.length = 10 ∧
        -1 * ((Nat.ofDigitChars 10 (whole ++ fraction) 0 : ℚ) / 10 ^ fraction.length) =
          truncated 10 (valueOf lowGroups) := by
  have hlen : 8 + 2 * wordAt lowGroups 0 ≤ lowGroups.length := by decide
  have hsign : wordAt lowGroups 2 = 0 ∨ wordAt lowGroups 2 = negativeSign := by decide
  have hgroups : ∀ i < wordAt lowGroups 0, wordAt lowGroups (4 + i) ≤ 9999 := by decide
  obtain ⟨n, hn, whole, fraction, htext, -, -, hscale, hvalue⟩ :=
    (decoding_exact lowGroups).2 hlen hsign hgroups
  have hread : ofBytes? lowGroups = some ⟨[12, 3456], -2, 0x4000, 10⟩ := by decide
  obtain rfl := Option.some.inj (hread.symm.trans hn)
  have hneg : wordAt lowGroups 2 = negativeSign := by decide
  have hshown : wordAt lowGroups 3 = 10 := by decide
  simp only [hneg, hshown, if_true] at htext hscale hvalue
  exact ⟨hlen, hsign, hgroups, _, hn, by cbv, whole, fraction, htext, hscale, hvalue⟩

end Numeric

end SqlSession.Postgres
