import Mathlib.Data.List.Basic
import SqlSession.Json.Lexer
import SqlSession.Json.Printer

/-! # JSON strings that are read back

A string in quotes is read up to its closing quote and gives the text that was written, whatever
follows it (`scanString_written`).  So no two texts are written alike. -/

namespace SqlSession.Json

open Text

section Scanning

variable {t s rest : List Char} (h : scanString t = some (s, rest))
include h

theorem scanString_plain {c : Char} (hquote : c ≠ '"') (hslash : c ≠ '\\') (hshown : 0x20 ≤ c.toNat) :
    scanString (c :: t) = some (c :: s, rest) := by
  rw [scanString]
  · rw [if_neg (by omega), h]
    rfl
  all_goals simp [hquote, hslash]

theorem scanString_escaped {c e : Char} (he : escaped? c = some e) :
    scanString ('\\' :: c :: t) = some (e :: s, rest) := by
  have hu : c ≠ 'u' := by
    rintro rfl
    cases he
  rw [scanString, he, h]
  · rfl
  all_goals simp [hu]

end Scanning

theorem exists_unit?_of_scanString {a b c d : Char} {t : List Char} {x : List Char × List Char}
    (h : scanString ('\\' :: 'u' :: a :: b :: c :: d :: t) = some x) : ∃ n, unit? a b c d = some n := by
  cases hn : unit? a b c d with
  | some n => exact ⟨n, rfl⟩
  | none =>
      unfold scanString at h
      split at h
      · cases h
      · rename_i he
        cases he
      · rename_i he
        cases he
        rw [hn] at h
        cases h
      · rename_i he
        cases he
        rw [hn] at h
        cases h
      · rename_i hne he
        cases he
        exact absurd rfl (hne a b c d t rfl)
      · rename_i hne he
        cases he
        exact absurd rfl (hne 'u' (a :: b :: c :: d :: t) rfl)

theorem scanString_unit {t s rest : List Char} (h : scanString t = some (s, rest)) {a b c d : Char}
    {n : Nat} (hn : unit? a b c d = some n) (hlow : n < 0xD800) :
    scanString ('\\' :: 'u' :: a :: b :: c :: d :: t) = some (Char.ofNat n :: s, rest) := by
  have hhigh : (decide (0xD800 ≤ n) && decide (n ≤ 0xDBFF)) = false := by
    rw [decide_eq_false (by omega), Bool.false_and]
  have hlow' : (decide (0xDC00 ≤ n) && decide (n ≤ 0xDFFF)) = false := by
    rw [decide_eq_false (by omega), Bool.false_and]
  have hany : (decide (0xD800 ≤ n) && decide (n ≤ 0xDFFF)) = false := by
    rw [decide_eq_false (by omega), Bool.false_and]
  unfold scanString
  split
  · rename_i he
    cases he
  · rename_i he
    cases he
  · -- Another such escape follows, and is read on its own.
    rename_i he
    cases he
    obtain ⟨m, hm⟩ := exists_unit?_of_scanString h
    simp only [hn, hm, hhigh, hlow', Bool.false_eq_true, ↓reduceIte, h]
    rfl
  · rename_i he
    cases he
    simp only [hn, hany, Bool.false_eq_true, ↓reduceIte, h]
    rfl
  · rename_i hne he
    cases he
    exact absurd rfl (hne a b c d t rfl)
  · rename_i hne he
    cases he
    exact absurd rfl (hne 'u' (a :: b :: c :: d :: t) rfl)

/-! ### What is written -/

theorem exists_hexFixed : ∀ n < 0x20,
    ∃ a b c d, hexFixed 4 n = [a, b, c, d] ∧ unit? a b c d = some n := by
  intro n hn
  refine ⟨hexDigit (n / 16 / 16 / 16 % 16), hexDigit (n / 16 / 16 % 16), hexDigit (n / 16 % 16),
    hexDigit (n % 16), rfl, ?_⟩
  revert n
  decide

theorem scanString_writtenChar {t s rest : List Char} (h : scanString t = some (s, rest)) (c : Char) :
    scanString (writtenChar c ++ t) = some (c :: s, rest) := by
  unfold writtenChar
  split_ifs with hquote hslash hshown hb hf hn hr ht
  · rw [hquote]
    exact scanString_escaped h rfl
  · rw [hslash]
    exact scanString_escaped h rfl
  · exact scanString_plain h hquote hslash hshown
  · rw [hb]
    exact scanString_escaped h rfl
  · rw [hf]
    exact scanString_escaped h rfl
  · rw [hn]
    exact scanString_escaped h rfl
  · rw [hr]
    exact scanString_escaped h rfl
  · rw [ht]
    exact scanString_escaped h rfl
  · obtain ⟨x, y, z, w, hdigits, hunit⟩ := exists_hexFixed c.toNat (by omega)
    have hread := scanString_unit h hunit (by omega)
    rw [Char.ofNat_toNat] at hread
    rw [hdigits]
    exact hread

/-- A written text is read up to its closing quote. -/
theorem scanString_written (s rest : List Char) :
    scanString (s.flatMap writtenChar ++ '"' :: rest) = some (s, rest) := by
  induction s with
  | nil => rw [List.flatMap_nil, List.nil_append, scanString]
  | cons c r ih =>
      rw [List.flatMap_cons, List.append_assoc]
      exact scanString_writtenChar ih c

theorem stringText_append (s : String) (rest : List Char) :
    stringText s ++ rest = '"' :: (s.toList.flatMap writtenChar ++ '"' :: rest) := by
  simp [stringText]

theorem stringText_append_inj {s t : String} {rest rest' : List Char} :
    stringText s ++ rest = stringText t ++ rest' ↔ s = t ∧ rest = rest' := by
  constructor
  · intro h
    rw [stringText_append, stringText_append] at h
    have hread := scanString_written s.toList rest
    rw [(List.cons.inj h).2, scanString_written] at hread
    obtain ⟨hs, hrest⟩ := Prod.mk.inj (Option.some.inj hread)
    exact ⟨(String.toList_inj.1 hs).symm, hrest.symm⟩
  · rintro ⟨rfl, rfl⟩
    rfl

/-- The text of an object tells what the text of its first member is. -/
theorem compact_obj_str_inj {name s t : String} {members : List (String × Json)} :
    (obj ((name, str s) :: members)).compact = (obj ((name, str t) :: members)).compact ↔ s = t := by
  constructor
  · intro h
    cases members with
    | nil =>
        simp only [compact, compactText, compactMembers, String.ofList_inj, List.cons_append,
          List.append_assoc, List.cons.injEq, true_and, List.append_cancel_left_eq] at h
        exact (stringText_append_inj.1 h).1
    | cons m r =>
        simp only [compact, compactText, compactMembers, String.ofList_inj, List.cons_append,
          List.append_assoc, List.cons.injEq, true_and, List.append_cancel_left_eq] at h
        exact (stringText_append_inj.1 h).1
  · rintro rfl
    rfl

end SqlSession.Json
