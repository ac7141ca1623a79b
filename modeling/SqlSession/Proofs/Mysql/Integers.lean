import Mathlib.Tactic.Linarith
import SqlSession.Mysql.Exchange
import SqlSession.Proofs.Json.Tokens
import SqlSession.Proofs.Text.Utf8

/-! # Integers of MySQL columns

A server sends an integer as a decimal numeral or in two's complement (`Sent`).  Both forms are read as
the same number (`Sent.signed?_eq`, `Sent.unsigned?_eq`), and of the widths that are tried one after the
other the first that accepts it gives the same word as any other would (`Cell.integer?_signed`,
`Cell.unsignedInteger?_unsigned`).  So an integer column keeps its numbers in both forms, over the whole
range of its type (`integer_column_exact`). -/

namespace SqlSession.Mysql

/-! ### Octets, the low one first -/

theorem length_littleEndianOctets (width n : Nat) : (littleEndianOctets width n).length = width := by
  induction width generalizing n with
  | zero => rfl
  | succ width ih => simp [littleEndianOctets, ih]

theorem littleEndian_littleEndianOctets (width n : Nat) :
    littleEndian (littleEndianOctets width n) = n % 256 ^ width := by
  induction width generalizing n with
  | zero => simp [littleEndianOctets, littleEndian, Nat.mod_one]
  | succ width ih =>
      have hpow : 256 ^ (width + 1) = 256 * 256 ^ width := Nat.pow_succ'
      rw [littleEndianOctets, littleEndian, ih, UInt8.toNat_ofNat', hpow]
      exact Nat.mod_mul.symm

/-- An integer in two's complement. -/
def twosComplement (octets : Nat) (n : Int) : Bytes :=
  littleEndianOctets octets (n % 256 ^ octets).toNat

variable {octets : Nat} {n : Int}

theorem length_twosComplement (octets : Nat) (n : Int) : (twosComplement octets n).length = octets :=
  length_littleEndianOctets _ _

theorem littleEndian_twosComplement (octets : Nat) (n : Int) :
    (littleEndian (twosComplement octets n) : Int) = n % 256 ^ octets := by
  have hp : (0 : Int) < 256 ^ octets := by positivity
  have hnonneg := Int.emod_nonneg n hp.ne'
  have hlt : (n % 256 ^ octets).toNat < 256 ^ octets := by
    have hlt := Int.emod_lt_of_pos n hp
    zify
    rwa [Int.toNat_of_nonneg hnonneg]
  rw [twosComplement, littleEndian_littleEndianOctets, Nat.mod_eq_of_lt hlt, Int.toNat_of_nonneg hnonneg]

/-- The upper half of the octets stands for the negative numbers. -/
theorem signedLittleEndian_twosComplement (hlow : -256 ^ octets ≤ 2 * n) (hhigh : 2 * n < 256 ^ octets) :
    signedLittleEndian (twosComplement octets n) = n := by
  have hread := littleEndian_twosComplement octets n
  have hpow : ((Nat.pow 256 octets : Nat) : Int) = 256 ^ octets := by
    rw [Nat.pow_eq]
    exact Nat.cast_pow 256 octets
  rw [signedLittleEndian, length_twosComplement]
  rcases Int.lt_or_le n 0 with hneg | hpos
  · have hmod : n % 256 ^ octets = n + 256 ^ octets := by
      rw [← Int.add_emod_right, Int.emod_eq_of_lt (by linarith) (by linarith)]
    rw [hmod] at hread
    rw [if_neg (by zify; rw [hpow, hread]; linarith), hread, hpow]
    linarith
  · rw [Int.emod_eq_of_lt hpos (by linarith)] at hread
    rw [if_pos (by zify; rw [hpow, hread]; exact hhigh), hread]

/-! ### Types and forms -/

/-- The integer types: the bits of their numbers, and the octets of their binary form. -/
inductive IntegerType : ColumnType → (bits octets : Nat) → Prop
  | tiny : IntegerType .tiny 8 1
  | short : IntegerType .short 16 2
  | int24 : IntegerType .int24 24 4
  | long : IntegerType .long 32 4
  | longLong : IntegerType .longLong 64 8

/-- Whether a number is in the range of so many bits. -/
def InRange (unsigned : Bool) (bits : Nat) (n : Int) : Prop :=
  if unsigned then 0 ≤ n ∧ n < 2 ^ bits else -2 ^ (bits - 1) ≤ n ∧ n < 2 ^ (bits - 1)

instance (unsigned : Bool) (bits : Nat) (n : Int) : Decidable (InRange unsigned bits n) :=
  inferInstanceAs (Decidable (if unsigned then _ else _))

/-- How a server sends an integer: as a decimal numeral, which may be filled up with zeros, or in two's
complement. -/
inductive Sent (unsigned : Bool) (octets : Nat) (n : Int) : Format → Bytes → Prop
  | text {s : String} (h : Number.Numeral (!unsigned) s.toList n) : Sent unsigned octets n .text (Text.utf8 s)
  | binary : Sent unsigned octets n .binary (twosComplement octets n)

/-- The value of an integer: the very number, as a word of 64 bits that is signed or not. -/
inductive Word (n : Int) : (unsigned : Bool) → Value → Prop
  | int {i : Int64} (h : i.toInt = n) : Word n false (.int i)
  | uint {u : UInt64} (h : (u.toNat : Int) = n) : Word n true (.uint u)

variable {t : TypeInfo} {unsigned : Bool} {bits : Nat} {format : Format} {content : Bytes}

namespace IntegerType

/-- The octets hold the numbers, and so does a word of 64 bits. -/
theorem widths {type : ColumnType} (ht : IntegerType type bits octets) :
    (2 : Int) * 2 ^ (bits - 1) = 2 ^ bits ∧ (2 : Int) ^ bits ≤ 256 ^ octets ∧ bits ≤ 64 ∧
      1 ≤ octets ∧ octets ≤ 8 := by
  cases ht <;> decide

theorem isInteger (ht : IntegerType t.type bits octets) : t.isInteger = true := by
  unfold TypeInfo.isInteger
  generalize t.type = type at ht
  cases ht <;> rfl

theorem isNull_eq (ht : IntegerType t.type bits octets) (format : Format) (content : Bytes) :
    Cell.isNull ⟨t, format, content⟩ = false := by
  unfold Cell.isNull
  dsimp only
  generalize t.type = type at ht
  cases ht <;> rfl

/-- The name of an integer type says that it is one, and whether it is unsigned; the only exception is that
of truth values. -/
theorem category_eq (ht : IntegerType t.type bits octets) (htruth : t.type = .tiny → t.length ≠ 1) :
    TypeCategory.ofTypeName t.name .mysql =
      if t.unsigned then .unsignedInteger else .integer := by
  obtain ⟨type, unsigned, binary, enumeration, length⟩ := t
  dsimp only at ht htruth
  cases ht with
  | tiny =>
      cases unsigned <;> simp only [TypeInfo.name, if_neg (htruth rfl), Bool.false_eq_true, reduceIte] <;>
        decide +kernel
  | _ =>
      cases unsigned <;> simp only [TypeInfo.name, Bool.false_eq_true, reduceIte] <;> decide +kernel

end IntegerType

/-- A numeral is read back from its octets. -/
theorem Cell.asText?_utf8 (t : TypeInfo) (format : Format) (s : String) :
    Cell.asText? ⟨t, format, Text.utf8 s⟩ = some s.toList := by
  rw [Cell.asText?, Text.ofUtf8?_eq_some_iff.mpr rfl]
  rfl

namespace Sent

theorem signed?_eq {i : Int64} (ht : IntegerType t.type bits octets)
    (hn : InRange false bits i.toInt) (hs : Sent false octets i.toInt format content) :
    Cell.signed? ⟨t, format, content⟩ = some i.toInt := by
  obtain ⟨hdouble, hocts, -, hpos, hle⟩ := ht.widths
  cases hs with
  | @text s h =>
      rw [Cell.signed?]
      dsimp only
      have hread : Number.int64? s.toList = some i := by
        rw [Number.int64?, Number.int?_eq_some_iff.mpr h]
        exact Number.toInt64?_eq_some_iff.mpr rfl
      rw [Cell.asText?_utf8, Option.bind_some, hread]
      rfl
  | binary =>
      have hholds : Cell.holdsInteger ⟨t, .binary, twosComplement octets i.toInt⟩ = true := by
        simp [Cell.holdsInteger, length_twosComplement, hpos, hle]
      obtain ⟨hlow, hhigh⟩ : -2 ^ (bits - 1) ≤ i.toInt ∧ i.toInt < 2 ^ (bits - 1) := hn
      rw [Cell.signed?]
      simp only [hholds, if_true]
      rw [signedLittleEndian_twosComplement (by linarith) (by linarith)]

theorem unsigned?_eq {u : UInt64} (ht : IntegerType t.type bits octets)
    (hn : InRange true bits u.toNat) (hs : Sent true octets u.toNat format content) :
    Cell.unsigned? ⟨t, format, content⟩ = some u.toNat := by
  obtain ⟨-, hocts, -, hpos, hle⟩ := ht.widths
  cases hs with
  | @text s h =>
      rw [Cell.unsigned?]
      dsimp only
      have hread : Number.uint64? s.toList = some u := by
        rw [Number.uint64?, Number.unsigned?_eq_some_iff.mpr h, Option.bind_some]
        exact Number.toUInt64?_eq_some_iff.mpr rfl
      rw [Cell.asText?_utf8, Option.bind_some, hread]
      rfl
  | binary =>
      have hholds : Cell.holdsInteger ⟨t, .binary, twosComplement octets u.toNat⟩ = true := by
        simp [Cell.holdsInteger, length_twosComplement, hpos, hle]
      obtain ⟨hlow, hhigh⟩ : (0 : Int) ≤ u.toNat ∧ (u.toNat : Int) < 2 ^ bits := hn
      have hread := littleEndian_twosComplement octets u.toNat
      rw [Int.emod_eq_of_lt hlow (lt_of_lt_of_le hhigh hocts), Int.ofNat_inj] at hread
      rw [Cell.unsigned?]
      simp only [hholds, if_true]
      rw [hread]

theorem plain (hn : InRange unsigned bits n) :
    Sent unsigned octets n .text (Text.utf8 (toString n)) := by
  cases unsigned with
  | false => exact .text (Json.integral_toString n).numeral
  | true =>
      obtain ⟨k, rfl⟩ := Int.eq_ofNat_of_zero_le hn.1
      have hs : (toString (k : Int)).toList = Nat.toDigits 10 k := Nat.toList_repr
      exact .text (hs ▸ .bare (Json.digits_toDigits k))

end Sent

/-! ### One width after the other -/

namespace Cell

variable {c : Cell}

/-- An attempt that gives nothing or the value, before attempts that give the value. -/
theorem orElse_of_rung {o o' : Option Value} {v : Value} (ho : o = none ∨ o = some v)
    (ho' : o' = some v) : (o <|> o') = some v := by
  rcases ho with rfl | rfl
  · exact ho'
  · rfl

/-- A narrow word is refused or extended to the number itself. -/
theorem signedWord?_rung {i : Int64} (hc : c.signed? = some i.toInt) (width : Nat) :
    c.signedWord? width = none ∨ c.signedWord? width = some (.int i) := by
  rw [signedWord?, hc, Option.bind_some, Number.toInt64?_eq_some_iff.mpr rfl]
  split
  · exact .inr rfl
  · exact .inl rfl

theorem unsignedWord?_rung {u : UInt64} (hc : c.unsigned? = some u.toNat) (width : Nat) :
    c.unsignedWord? width = none ∨ c.unsignedWord? width = some (.uint u) := by
  rw [unsignedWord?, hc, Option.bind_some, Number.toUInt64?_eq_some_iff.mpr rfl]
  split
  · exact .inr rfl
  · exact .inl rfl

theorem signedWord?_widest {i : Int64} (hc : c.signed? = some i.toInt) :
    c.signedWord? 64 = some (.int i) := by
  have hword := Number.toInt64?_eq_some_iff.mpr (rfl : i.toInt = i.toInt)
  have hfits : Number.fitsSigned 64 i.toInt = true := (Option.ite_none_right_eq_some.mp hword).1
  rw [signedWord?, hc, Option.bind_some, if_pos hfits, hword]
  rfl

theorem unsignedWord?_widest {u : UInt64} (hc : c.unsigned? = some u.toNat) :
    c.unsignedWord? 64 = some (.uint u) := by
  have hword := Number.toUInt64?_eq_some_iff.mpr (rfl : (u.toNat : Int) = u.toNat)
  have hfits : Number.fitsUnsigned 64 u.toNat = true := (Option.ite_none_right_eq_some.mp hword).1
  rw [unsignedWord?, hc, Option.bind_some, if_pos hfits, hword]
  rfl

theorem integer?_signed {i : Int64} (ht : c.type.isInteger = true) (hu : c.type.unsigned = false)
    (hc : c.signed? = some i.toInt) : c.integer? = some (.int i) := by
  have hwords := orElse_of_rung (signedWord?_rung hc 8) <|
    orElse_of_rung (signedWord?_rung hc 16) <|
    orElse_of_rung (signedWord?_rung hc 32) (signedWord?_widest hc)
  rw [integer?, ht, hu, Bool.not_false, Bool.and_self, if_pos rfl, hwords]
  rfl

theorem unsignedInteger?_unsigned {u : UInt64} (ht : c.type.isInteger = true)
    (hu : c.type.unsigned = true) (hc : c.unsigned? = some u.toNat) :
    c.unsignedInteger? = some (.uint u) := by
  have hwords := orElse_of_rung (unsignedWord?_rung hc 8) <|
    orElse_of_rung (unsignedWord?_rung hc 16) <|
    orElse_of_rung (unsignedWord?_rung hc 32) (unsignedWord?_widest hc)
  rw [unsignedInteger?, ht, hu, Bool.and_self, if_pos rfl, hwords]

end Cell

/-! ### Columns -/

theorem value_of_decode? {f : Field} {v : Value} (hnull : Cell.isNull ⟨f.type, format, content⟩ = false)
    (hv : Cell.decode? ⟨f.type, format, content⟩ = some v) : value format f (some content) = .ok v := by
  simp only [value, hnull, hv, Bool.false_eq_true, if_false]

theorem IntegerType.exists_word {type : ColumnType} (ht : IntegerType type bits octets)
    (hn : InRange unsigned bits n) : ∃ v, Word n unsigned v := by
  obtain ⟨hdouble, -, hbits, -, -⟩ := ht.widths
  have hpow : (2 : Int) ^ bits ≤ 2 ^ 64 := pow_le_pow_right₀ (by decide) hbits
  cases unsigned with
  | false =>
      obtain ⟨hlow, hhigh⟩ : -2 ^ (bits - 1) ≤ n ∧ n < 2 ^ (bits - 1) := hn
      exact ⟨.int (.ofInt n), .int (Int64.toInt_ofInt_of_le (by linarith) (by linarith))⟩
  | true =>
      obtain ⟨hlow, hhigh⟩ : 0 ≤ n ∧ n < 2 ^ bits := hn
      obtain ⟨k, rfl⟩ := Int.eq_ofNat_of_zero_le hlow
      have hk : (UInt64.ofNat k).toNat = k := UInt64.toNat_ofNat_of_lt' (by
        have hlt : (k : Int) < 2 ^ 64 := lt_of_lt_of_le hhigh hpow
        simp only [UInt64.size]
        omega)
      exact ⟨.uint (.ofNat k), .uint (congrArg Int.ofNat hk)⟩

/-- An integer column has the number that was sent. -/
theorem value_of_sent {f : Field} {v : Value} (ht : IntegerType f.type.type bits octets)
    (htruth : f.type.type = .tiny → f.type.length ≠ 1) (hn : InRange f.type.unsigned bits n)
    (hv : Word n f.type.unsigned v) (hs : Sent f.type.unsigned octets n format content) :
    value format f (some content) = .ok v := by
  refine value_of_decode? (ht.isNull_eq format content) ?_
  have htyped : Cell.typed? ⟨f.type, format, content⟩ (.ofTypeName f.type.name .mysql) = some v := by
    rw [ht.category_eq htruth]
    generalize hu : f.type.unsigned = unsigned at hn hv hs ⊢
    cases hv with
    | int h =>
        subst h
        exact Cell.integer?_signed ht.isInteger hu (hs.signed?_eq ht hn)
    | uint h =>
        subst h
        exact Cell.unsignedInteger?_unsigned ht.isInteger hu (hs.unsigned?_eq ht hn)
  rw [Cell.decode?, htyped]
  rfl

theorem rowValues_append_cons (format : Format) {before after : List Field}
    {rowBefore rowAfter : List (Option Bytes)} (f : Field) (content : Option Bytes)
    (hl : before.length = rowBefore.length) :
    rowValues format (before ++ f :: after) (rowBefore ++ content :: rowAfter) = (do
      let valuesBefore ← rowValues format before rowBefore
      let v ← value format f content
      let valuesAfter ← rowValues format after rowAfter
      return valuesBefore ++ v :: valuesAfter) := by
  simp only [rowValues, List.zip_append hl, List.zip_cons_cons, List.mapM_append, List.mapM_cons,
    bind_assoc, pure_bind]

/-- **Integer columns are exact in both forms.**  Whatever the width and the signedness of its type, an
integer column in whose range a number lies gives this very number, as a signed word or an unsigned one
like the type, from its numeral and from its two's complement; and so it does in every row, in its place
among the other columns. -/
theorem integer_column_exact {f : Field} (ht : IntegerType f.type.type bits octets)
    (htruth : f.type.type = .tiny → f.type.length ≠ 1) (hn : InRange f.type.unsigned bits n) :
    Sent f.type.unsigned octets n .text (Text.utf8 (toString n)) ∧
    ∃ v, Word n f.type.unsigned v ∧ ∀ format content, Sent f.type.unsigned octets n format content →
      value format f (some content) = .ok v ∧
      ∀ before after rowBefore rowAfter, before.length = rowBefore.length →
        rowValues format (before ++ f :: after) (rowBefore ++ some content :: rowAfter) = do
          let valuesBefore ← rowValues format before rowBefore
          let valuesAfter ← rowValues format after rowAfter
          return valuesBefore ++ v :: valuesAfter := by
  refine ⟨.plain hn, ?_⟩
  obtain ⟨v, hv⟩ := ht.exists_word hn
  refine ⟨v, hv, fun format content hs => ?_⟩
  have hvalue := value_of_sent ht htruth hn hv hs
  refine ⟨hvalue, fun before after rowBefore rowAfter hl => ?_⟩
  rw [rowValues_append_cons format f _ hl, hvalue]
  rfl

/-- The least number of three octets, which takes four on the wire, and the greatest one of eight, filled up
with zeros. -/
theorem integer_column_exact_ends :
    let least : Field := ⟨"m", ⟨.int24, false, false, false, 9⟩⟩
    let greatest : Field := ⟨"b", ⟨.longLong, true, false, false, 22⟩⟩
    IntegerType least.type.type 24 4 ∧ InRange least.type.unsigned 24 (-8388608) ∧
    value .text least (some (Text.utf8 "-8388608")) = .ok (.int (-8388608)) ∧
    value .binary least (some [0, 0, 0x80, 0xff]) = .ok (.int (-8388608)) ∧
    IntegerType greatest.type.type 64 8 ∧ InRange greatest.type.unsigned 64 18446744073709551615 ∧
    value .text greatest (some (Text.utf8 "0018446744073709551615")) = .ok (.uint 18446744073709551615) ∧
    value .binary greatest (some (List.replicate 8 0xff)) = .ok (.uint 18446744073709551615) := by
  intro least greatest
  have hlow : InRange least.type.unsigned 24 (-8388608) := by decide
  have hhigh : InRange greatest.type.unsigned 64 18446744073709551615 := by decide
  obtain ⟨-, v, hv, hread⟩ := integer_column_exact (f := least) .int24 nofun hlow
  obtain ⟨-, w, hw, hread'⟩ := integer_column_exact (f := greatest) .longLong nofun hhigh
  obtain rfl : v = .int (-8388608) := by
    cases hv with
    | int h => exact congrArg Value.int (Int64.toInt_inj.mp h)
  obtain rfl : w = .uint 18446744073709551615 := by
    cases hw with
    | uint h => exact congrArg Value.uint (UInt64.toNat_inj.mp (Int.ofNat_inj.mp h))
  have hminus : Number.Numeral true "-8388608".toList (-8388608) :=
    .minus rfl ⟨by decide, List.all_eq_true.mp (by decide), by decide⟩
  have hfilled : Number.Numeral false "0018446744073709551615".toList 18446744073709551615 :=
    .bare ⟨by decide, List.all_eq_true.mp (by decide), by decide⟩
  exact ⟨.int24, hlow, (hread _ _ (.text hminus)).1, (hread _ _ .binary).1, .longLong, hhigh,
    (hread' _ _ (.text hfilled)).1, (hread' _ _ .binary).1⟩

end SqlSession.Mysql
