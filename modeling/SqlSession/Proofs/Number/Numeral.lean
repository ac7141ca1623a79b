import SqlSession.Number.Numeral
import SqlSession.Proofs.Text.Words

/-! # Numerals

What the integer readers take: digits after at most one sign (`int?_eq_some_iff`,
`unsigned?_eq_some_iff`), and, once a text has been trimmed, such a numeral with white space around it
(`spells_iff`).  The passage into words takes exactly the numbers of the words
(`toInt64?_eq_some_iff`, `toUInt64?_eq_some_iff`). -/

namespace SqlSession.Number

/-- Whether a text is decimal digits, at least one, of a number. -/
def Digits (s : List Char) (n : Nat) : Prop :=
  s ≠ [] ∧ (∀ c ∈ s, c.isDigit = true) ∧ Nat.ofDigitChars 10 s 0 = n

/-- Whether a text is a decimal numeral of an integer: digits after at most one sign, which is a minus
only if the numeral is `signed`. -/
inductive Numeral (signed : Bool) : List Char → Int → Prop
  | bare {s : List Char} {n : Nat} (h : Digits s n) : Numeral signed s n
  | plus {s : List Char} {n : Nat} (h : Digits s n) : Numeral signed ('+' :: s) n
  | minus {s : List Char} {n : Nat} (hs : signed = true) (h : Digits s n) :
      Numeral signed ('-' :: s) (-n)

variable {s : List Char} {signed : Bool} {z : Int}

theorem nat?_eq_some_iff {n : Nat} : nat? s = some n ↔ Digits s n := by
  rw [nat?, Digits, Option.ite_none_left_eq_some]
  simp [and_assoc]

/-- A digit is no sign. -/
theorem Digits.cons {n : Nat} (h : Digits s n) : ∃ c r, s = c :: r ∧ c ≠ '-' ∧ c ≠ '+' := by
  obtain ⟨hne, hall, -⟩ := h
  obtain ⟨c, r, rfl⟩ := List.exists_cons_of_ne_nil hne
  have hc := hall c List.mem_cons_self
  refine ⟨c, r, rfl, ?_, ?_⟩
  · rintro rfl
    exact absurd hc (by decide)
  · rintro rfl
    exact absurd hc (by decide)

theorem int?_minus (r : List Char) : int? ('-' :: r) = Option.map (fun n : Nat => -(n : Int)) (nat? r) := by
  rw [int?]
  cases nat? r <;> rfl

theorem int?_eq_some_iff : int? s = some z ↔ Numeral true s z := by
  constructor
  · intro h
    by_cases hs : ∃ r, s = '-' :: r
    · obtain ⟨r, rfl⟩ := hs
      obtain ⟨n, hn, rfl⟩ := Option.map_eq_some_iff.mp ((int?_minus r).symm.trans h)
      exact .minus rfl (nat?_eq_some_iff.mp hn)
    · unfold int? at h
      split at h
      · exact absurd ⟨_, rfl⟩ hs
      · obtain ⟨n, hn, rfl⟩ := Option.map_eq_some_iff.mp h
        exact .plus (nat?_eq_some_iff.mp hn)
      · obtain ⟨n, hn, rfl⟩ := Option.map_eq_some_iff.mp h
        exact .bare (nat?_eq_some_iff.mp hn)
  · rintro (hd | hd | ⟨-, hd⟩)
    · have hn := nat?_eq_some_iff.mpr hd
      obtain ⟨c, r, rfl, hminus, hplus⟩ := hd.cons
      simp [int?, hminus, hplus, hn]
    · simp [int?, nat?_eq_some_iff.mpr hd]
    · simp [int?_minus, nat?_eq_some_iff.mpr hd]

theorem unsigned?_eq_some_iff {n : Nat} : unsigned? s = some n ↔ Numeral false s n := by
  constructor
  · intro h
    unfold unsigned? at h
    split at h
    · exact .plus (nat?_eq_some_iff.mp h)
    · exact .bare (nat?_eq_some_iff.mp h)
  · generalize hz : (n : Int) = z
    rintro (hd | hd | ⟨hs, -⟩)
    · obtain rfl := Int.ofNat_inj.mp hz
      have hn := nat?_eq_some_iff.mpr hd
      obtain ⟨c, r, rfl, -, hplus⟩ := hd.cons
      simp [unsigned?, hplus, hn]
    · obtain rfl := Int.ofNat_inj.mp hz
      exact nat?_eq_some_iff.mpr hd
    · cases hs

theorem Numeral.of_unsigned (h : Numeral false s z) : Numeral true s z := by
  rcases h with hd | hd | ⟨hs, -⟩
  · exact .bare hd
  · exact .plus hd
  · cases hs

theorem Numeral.nonneg (h : Numeral false s z) : 0 ≤ z := by
  rcases h with hd | hd | ⟨hs, -⟩
  · exact Int.natCast_nonneg _
  · exact Int.natCast_nonneg _
  · cases hs

/-- The integer of a numeral. -/
def numeral? (signed : Bool) (s : List Char) : Option Int :=
  if signed then int? s else (unsigned? s).map Int.ofNat

theorem numeral?_eq_some_iff : numeral? signed s = some z ↔ Numeral signed s z := by
  cases signed with
  | true => exact int?_eq_some_iff
  | false =>
      constructor
      · intro h
        obtain ⟨n, hn, rfl⟩ := Option.map_eq_some_iff.mp h
        exact unsigned?_eq_some_iff.mp hn
      · intro h
        obtain ⟨n, rfl⟩ := Int.eq_ofNat_of_zero_le h.nonneg
        exact congrArg (Option.map Int.ofNat) (unsigned?_eq_some_iff.mpr h)

/-! ### White space around a numeral -/

theorem isBlank_of_isDigit {c : Char} (h : c.isDigit = true) : Text.isBlank c = false := by
  simp only [Char.isDigit, Bool.and_eq_true, decide_eq_true_eq] at h
  have hc : 48 ≤ c.toNat ∧ c.toNat ≤ 57 := h
  simp [Text.isBlank]
  omega

/-- A numeral holds no white space. -/
theorem Numeral.isWord (h : Numeral signed s z) : Text.IsWord s := by
  have hdigits {r : List Char} {n : Nat} (hd : Digits r n) : ∀ c ∈ r, Text.isBlank c = false :=
    fun c hc => isBlank_of_isDigit (hd.2.1 c hc)
  rcases h with hd | hd | ⟨-, hd⟩
  · exact ⟨hd.1, hdigits hd⟩
  · exact ⟨List.cons_ne_nil _ _, List.forall_mem_cons.mpr ⟨by decide, hdigits hd⟩⟩
  · exact ⟨List.cons_ne_nil _ _, List.forall_mem_cons.mpr ⟨by decide, hdigits hd⟩⟩

/-- Whether a text spells an integer: it is a numeral, with any white space around it. -/
def Spells (signed : Bool) (s : List Char) (z : Int) : Prop :=
  ∃ before numeral after, s = before ++ numeral ++ after ∧ Text.Blank before ∧ Text.Blank after ∧
    Numeral signed numeral z

/-- Trimming leaves a numeral of exactly the texts that spell its integer. -/
theorem spells_iff : Spells signed s z ↔ Numeral signed (Text.trim s) z := by
  constructor
  · rintro ⟨before, numeral, after, rfl, hbefore, hafter, h⟩
    rwa [Text.trim_append hbefore h.isWord hafter]
  · intro h
    obtain ⟨before, after, hs, hbefore, hafter⟩ := Text.exists_trim s
    exact ⟨before, _, after, hs, hbefore, hafter, h⟩

/-! ### Words -/

theorem toInt64?_eq_some_iff {i : Int64} : toInt64? z = some i ↔ i.toInt = z := by
  have hl := i.le_toInt
  have hu := i.toInt_lt
  have hp : ((Nat.pow 2 (64 - 1) : Nat) : Int) = 2 ^ 63 := rfl
  rw [toInt64?, Option.ite_none_right_eq_some, fitsSigned, Bool.and_eq_true, decide_eq_true_eq,
    decide_eq_true_eq, hp, Option.some.injEq]
  constructor
  · rintro ⟨⟨hlow, hhigh⟩, rfl⟩
    exact Int64.toInt_ofInt_of_le hlow hhigh
  · rintro rfl
    exact ⟨⟨hl, hu⟩, Int64.ofInt_toInt i⟩

theorem toUInt64?_eq_some_iff {n : UInt64} : toUInt64? z = some n ↔ (n.toNat : Int) = z := by
  have hu := n.toNat_lt
  have hp : ((Nat.pow 2 64 : Nat) : Int) = 2 ^ 64 := rfl
  rw [toUInt64?, Option.ite_none_right_eq_some, fitsUnsigned, Bool.and_eq_true, decide_eq_true_eq,
    decide_eq_true_eq, hp, Option.some.injEq]
  constructor
  · rintro ⟨⟨hlow, hhigh⟩, rfl⟩
    rw [UInt64.toNat_ofNat_of_lt' (by simp [UInt64.size]; omega)]
    omega
  · rintro rfl
    exact ⟨⟨by omega, by omega⟩, by simp⟩

end SqlSession.Number
