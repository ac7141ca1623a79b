import SqlSession.Proofs.Json.Reading
import SqlSession.Proofs.Number.Nearest
import SqlSession.Proofs.Param.RoundTrip

/-! # Integers as parameters

An integer comes in as the text of a literal or as JSON, and both ways give one parameter
(`ofLiteral_numeral`).  It is the integer itself as long as a signed word holds it, and beyond that the
nearest double, which is the integer only if it is a multiple of 2048 (`integer_kept_or_rounded`). -/

namespace SqlSession.Param

open Number

/-- Whether a parameter is a number, and that number is an integer. -/
def Denotes : Param → Int → Prop
  | .int i, z => i.toInt = z
  | .float x, z => x.quantity? = some (.finite z)
  | .null, _ | .bool _, _ | .string _, _ | .bytes _, _ | .json _, _ => False

/-- Whether a parameter is a double, and that double is so many times 2048. -/
def RoundedTo (p : Param) (steps : Nat) : Prop :=
  ∃ x, p = .float x ∧ x.quantity? = some (.finite ((2 ^ 11 * steps : Nat) : Int))

variable {s : List Char} {z : Int}

/-! ### The parameter of an integer -/

theorem ofJson_of_lt (hlow : -2 ^ 63 ≤ z) (hhigh : z < 2 ^ 63) :
    ∃ i : Int64, i.toInt = z ∧ ofJson (.int z) = .int i := by
  have hi := Int64.toInt_ofInt_of_le hlow hhigh
  exact ⟨_, hi, by rw [ofJson_int, toInt64?_eq_some_iff.mpr hi]⟩

theorem toInt64?_of_le (h : 2 ^ 63 ≤ z) : toInt64? z = none := by
  rw [Option.eq_none_iff_forall_ne_some]
  intro i hi
  have := i.toInt_lt
  rw [toInt64?_eq_some_iff.mp hi] at this
  omega

theorem ofJson_of_le (hlow : 2 ^ 63 ≤ z) (hhigh : z < 2 ^ 64) :
    ∃ steps : Nat, RoundedTo (ofJson (.int z)) steps ∧ NearestSteps (2 ^ 11) z.toNat steps := by
  obtain ⟨n, rfl⟩ := Int.eq_ofNat_of_zero_le (show 0 ≤ z by omega)
  refine ⟨divNearest n (2 ^ 11), ⟨Double.ofInt n, ?_, ?_⟩, nearestSteps_divNearest (by norm_num)⟩
  · rw [ofJson_int, toInt64?_of_le hlow]
  · exact Double.quantity?_ofInt (by norm_num) (by omega) (by omega)

/-- An integer is kept exactly if a signed word holds it or nothing has to be rounded. -/
theorem denotes_ofJson_iff (hlow : -2 ^ 63 ≤ z) (hhigh : z < 2 ^ 64) :
    Denotes (ofJson (.int z)) z ↔ z < 2 ^ 63 ∨ 2 ^ 11 ∣ z := by
  by_cases hz : z < 2 ^ 63
  · obtain ⟨i, hi, hp⟩ := ofJson_of_lt hlow hz
    rw [hp]
    exact iff_of_true hi (.inl hz)
  · obtain ⟨steps, ⟨x, hp, hx⟩, hnear⟩ := ofJson_of_le (by omega) hhigh
    have hexact := hnear.exact_iff (by norm_num)
    rw [hp, Denotes, hx, or_iff_right hz]
    simp only [Option.some.injEq, Double.Quantity.finite.injEq, Int.cast_inj]
    omega

/-! ### Ways in -/

theorem not_null_of_numeral (h : Numeral true s z) : Text.sameAscii (String.ofList s) "null" = false := by
  have hlower : s.map Char.toLower ≠ "null".toList := by
    intro he
    rcases h with @⟨s, n, hd⟩ | @⟨s, n, hd⟩ | @⟨s, n, -, hd⟩
    · rw [Double.map_toLower_digits hd] at he
      exact absurd (hd.2.1 'n' (by rw [he]; decide)) (by decide)
    · exact absurd (List.head_eq_of_cons_eq he) (by decide)
    · exact absurd (List.head_eq_of_cons_eq he) (by decide)
  rw [Text.sameAscii, beq_eq_false_iff_ne]
  intro he
  have hnull : Text.lowerAscii "null" = String.ofList "null".toList := by decide
  rw [hnull, Text.lowerAscii, String.toList_ofList] at he
  exact hlower (String.ofList_injective he)

/-- **One parameter for both ways in**: the literal of an integer is the parameter of the JSON value. -/
theorem ofLiteral_numeral (h : Numeral true s z) (hlow : -2 ^ 63 ≤ z) (hhigh : z < 2 ^ 64) :
    ofLiteral (String.ofList s) = ofJson (.int z) := by
  have hread : int64? s = toInt64? z := by
    rw [int64?, int?_eq_some_iff.mpr h]
    rfl
  rw [ofLiteral, not_null_of_numeral h, String.toList_ofList, hread, ofJson_int]
  cases hword : toInt64? z with
  | some i => rfl
  | none =>
      have hz : 2 ^ 63 ≤ z := by
        by_contra hlt
        rw [toInt64?_eq_some_iff.mpr (Int64.toInt_ofInt_of_le hlow (by omega))] at hword
        cases hword
      rw [Double.ofText?_eq_ofInt h (by omega) hhigh]
      rfl

/-- The text of an integer in JSON gives the parameter of its value, except that `-0` is a double. -/
theorem ofJson_parse (h : Json.Integral s z) (hlow : -2 ^ 63 ≤ z) (hhigh : z < 2 ^ 64) :
    (Json.parse (String.ofList s)).map ofJson =
      some (if s = ['-', '0'] then .float Double.zero.neg else ofJson (.int z)) := by
  rw [Json.parse_integral h hlow hhigh, Json.integralValue]
  split <;> rfl

theorem denotes_negative_zero : Denotes (.float Double.zero.neg) 0 := by
  rw [Denotes, Double.quantity?_of_magnitude_eq_zero (by decide)]
  rfl

theorem eq_zero_of_minus_zero (h : Numeral true ['-', '0'] z) : z = 0 := by
  rcases h with hd | hd | ⟨-, hd⟩
  · exact absurd (hd.2.1 '-' (by decide)) (by decide)
  · rw [← hd.2.2]
    rfl

/-! ### Every integer -/

/-- **An integer is kept if a signed word holds it, and else rounded.**  From its literal, from its JSON
value and from the text of that value it becomes one parameter (for `-0` in JSON, a zero that is a double).
From 2⁶³ on that is a double: of the multiples of 2048 the nearest, and of two the even one.  So the integer
is kept exactly if it is below 2⁶³ or such a multiple. -/
theorem integer_kept_or_rounded (h : Numeral true s z) (hlow : -2 ^ 63 ≤ z) (hhigh : z < 2 ^ 64) :
    ofLiteral (String.ofList s) = ofJson (.int z) ∧
    (z < 2 ^ 63 → ∃ i : Int64, i.toInt = z ∧ ofJson (.int z) = .int i) ∧
    (2 ^ 63 ≤ z →
      ∃ steps : Nat, RoundedTo (ofJson (.int z)) steps ∧ NearestSteps (2 ^ 11) z.toNat steps) ∧
    (Denotes (ofJson (.int z)) z ↔ z < 2 ^ 63 ∨ 2 ^ 11 ∣ z) ∧
    (Json.Integral s z → ∃ p, (Json.parse (String.ofList s)).map ofJson = some p ∧
      (p = ofJson (.int z) ∨ s = ['-', '0'] ∧ p = .float Double.zero.neg) ∧
      (Denotes p z ↔ z < 2 ^ 63 ∨ 2 ^ 11 ∣ z)) := by
  have hkept := denotes_ofJson_iff hlow hhigh
  refine ⟨ofLiteral_numeral h hlow hhigh, ofJson_of_lt hlow, fun hz => ofJson_of_le hz hhigh, hkept, ?_⟩
  intro hjson
  refine ⟨_, ofJson_parse hjson hlow hhigh, ?_⟩
  split
  · rename_i hs
    subst hs
    obtain rfl := eq_zero_of_minus_zero h
    exact ⟨.inr ⟨rfl, rfl⟩, iff_of_true denotes_negative_zero (.inl (by omega))⟩
  · exact ⟨.inl rfl, hkept⟩

/-- 2⁶³, which no signed word holds, is kept as a double. -/
theorem integer_kept_or_rounded_wide :
    Numeral true "9223372036854775808".toList 9223372036854775808 ∧
    Denotes (ofLiteral "9223372036854775808") 9223372036854775808 := by
  have hnumeral : Numeral true "9223372036854775808".toList 9223372036854775808 :=
    int?_eq_some_iff.mp (by decide)
  have hkept := integer_kept_or_rounded hnumeral (by omega) (by omega)
  refine ⟨hnumeral, ?_⟩
  have htext : "9223372036854775808" = String.ofList "9223372036854775808".toList :=
    String.ofList_toList.symm
  rw [htext, hkept.1]
  exact hkept.2.2.2.1.mpr (.inr (by omega))

/-- The integer after it is not: both ways in give the double of 2⁶³ instead. -/
theorem integer_rounded_silently :
    Numeral true "9223372036854775809".toList 9223372036854775809 ∧
    Json.Integral "9223372036854775809".toList 9223372036854775809 ∧
    ¬ Denotes (ofLiteral "9223372036854775809") 9223372036854775809 ∧
    ¬ Denotes (ofJson (.int 9223372036854775809)) 9223372036854775809 ∧
    Denotes (ofJson (.int 9223372036854775809)) 9223372036854775808 := by
  have hdigits : Digits "9223372036854775809".toList 9223372036854775809 :=
    nat?_eq_some_iff.mp (by decide)
  have hlost : ¬ Denotes (ofJson (.int 9223372036854775809)) 9223372036854775809 := by
    rw [denotes_ofJson_iff (by omega) (by omega)]
    omega
  refine ⟨.bare hdigits, .bare hdigits (by decide), ?_, hlost, ?_⟩
  · have htext : "9223372036854775809" = String.ofList "9223372036854775809".toList :=
      String.ofList_toList.symm
    rwa [htext, ofLiteral_numeral (.bare hdigits) (by omega) (by omega)]
  · have hrounded := Double.quantity?_ofInt (g := 11) (n := 9223372036854775809) (by omega)
      (by omega) (by omega)
    have hsteps : 2 ^ 11 * divNearest 9223372036854775809 (2 ^ 11) = 9223372036854775808 := by decide
    rw [hsteps] at hrounded
    rw [ofJson_int, toInt64?_of_le (by omega)]
    exact hrounded

end SqlSession.Param
