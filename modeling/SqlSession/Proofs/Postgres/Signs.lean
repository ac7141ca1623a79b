import SqlSession.Postgres.Exchange
import SqlSession.Proofs.Postgres.Numeric
import SqlSession.Proofs.Text.Utf8

/-! # Sign words of numerics

A sign word that is neither of the two signs stands for what is not a finite number.  In binary form one
such word is known; every other one, those of the two infinities among them, is read as the sign of a
positive number, although the same values have names of their own in text form (`value_of_sign`,
`infinity_read_as_zero`). -/

namespace SqlSession.Postgres

/-- A column of exact numerics. -/
def numericField (name : String) : Field := ⟨name, 1700⟩

/-- A buffer with the sign word of a positive number in the place of its own. -/
def positive (b : Bytes) : Bytes := (b.set 4 0).set 5 0

theorem length_positive (b : Bytes) : (positive b).length = b.length := by
  rw [positive, List.length_set, List.length_set]

theorem getD_positive (b : Bytes) (i : Nat) :
    (positive b).getD i 0 = if i = 4 ∨ i = 5 then 0 else b.getD i 0 := by
  simp only [positive, List.getD_eq_getElem?_getD, List.getElem?_set, List.length_set]
  by_cases h5 : i = 5
  · subst h5
    simp only [if_true, or_true]
    split <;> rfl
  · by_cases h4 : i = 4
    · subst h4
      simp only [if_true, true_or, Nat.reduceEqDiff, if_false]
      split <;> rfl
    · simp only [Ne.symm h4, Ne.symm h5, h4, h5, or_self, if_false]

theorem wordAt_positive_two (b : Bytes) : wordAt (positive b) 2 = 0 := by
  rw [wordAt, getD_positive, getD_positive, if_pos (by omega), if_pos (by omega)]
  rfl

theorem wordAt_positive (b : Bytes) {i : Nat} (hi : i ≠ 2) : wordAt (positive b) i = wordAt b i := by
  rw [wordAt, getD_positive, getD_positive, if_neg (by omega), if_neg (by omega), wordAt]

theorem weightOf_positive (b : Bytes) : weightOf (positive b) = weightOf b := by
  rw [weightOf, wordAt_positive b (by decide), weightOf]

theorem groupsOf_positive (b : Bytes) : groupsOf (positive b) = groupsOf b := by
  rw [groupsOf, wordAt_positive b (by decide), groupsOf]
  exact List.map_congr_left fun i _ => wordAt_positive b (by omega)

namespace Numeric

/-! ### The digits of any groups -/

variable {n : Numeric}

theorem four_le_length_groupText (g : Nat) : 4 ≤ (groupText g).length := by
  rw [groupText_eq, List.length_append, List.length_replicate]
  omega

/-- As many digits are written as are asked for, also when a group has more than four. -/
theorem length_digitsFrom (fuel : Nat) : ∀ {count : Nat} (pos : Int), count ≤ fuel →
    (n.digitsFrom fuel count pos).length = count := by
  induction fuel with
  | zero =>
      intro count pos hf
      obtain rfl : count = 0 := by omega
      rfl
  | succ fuel ih =>
      intro count pos hf
      rw [digitsFrom]
      split
      · rename_i h0
        rw [h0, List.length_nil]
      · have hfour := four_le_length_groupText (n.groupAt pos)
        simp only [List.length_append, List.length_take]
        rw [ih (pos + 1) (by omega)]
        omega

theorem isDigit_of_mem_digitsFrom {c : Char} (fuel : Nat) : ∀ {count : Nat} {pos : Int},
    c ∈ n.digitsFrom fuel count pos → c.isDigit := by
  induction fuel with
  | zero => exact fun h => by cases h
  | succ fuel ih =>
      intro count pos h
      rw [digitsFrom] at h
      split at h
      · cases h
      · rcases List.mem_append.1 h with h | h
        · exact isDigit_of_mem_groupText (List.mem_of_mem_take h)
        · exact ih h

/-- Without a minus sign and unless it is not a number, a numeric is written with digits only, as many of
them after the point as its scale says. -/
theorem exists_text (hnan : n.sign ≠ nanSign) (hneg : n.sign ≠ negativeSign) :
    ∃ whole fraction : List Char,
      n.text = String.ofList (whole ++ if n.scale = 0 then [] else '.' :: fraction) ∧
      whole ≠ [] ∧ fraction.length = n.scale ∧ ∀ c ∈ whole ++ fraction, c.isDigit := by
  refine ⟨n.wholeText, n.fraction, ?_, wholeText_ne_nil, length_digitsFrom n.scale _ le_rfl, ?_⟩
  · rw [text, if_neg hnan, if_neg hneg, List.nil_append]
  · intro c hc
    rcases List.mem_append.1 hc with hc | hc
    · exact isDigit_of_mem_wholeText hc
    · exact isDigit_of_mem_digitsFrom n.scale hc

theorem digitsFrom_congr {m : Numeric} (h : m.groups = n.groups) (fuel : Nat) :
    ∀ (count : Nat) (pos : Int), m.digitsFrom fuel count pos = n.digitsFrom fuel count pos := by
  induction fuel with
  | zero => exact fun _ _ => rfl
  | succ fuel ih =>
      intro count pos
      have hg : m.groupAt pos = n.groupAt pos := by rw [groupAt, h, groupAt]
      simp only [digitsFrom, ih, hg]

/-- A sign word that is neither known one is not shown. -/
theorem text_of_other_sign (hnan : n.sign ≠ nanSign) (hneg : n.sign ≠ negativeSign) :
    n.text = { n with sign := 0 }.text := by
  have hzero : (0 : Nat) ≠ nanSign ∧ (0 : Nat) ≠ negativeSign := by decide
  have hfraction : n.fraction = { n with sign := 0 }.fraction :=
    digitsFrom_congr (m := n) (n := { n with sign := 0 }) rfl n.scale n.scale (n.weight + 1)
  rw [text, text, if_neg hnan, if_neg hneg, if_neg hzero.1, if_neg hzero.2, hfraction]
  rfl

theorem sign_of_ofBytes? {b : Bytes} (h : ofBytes? b = some n) : n.sign = wordAt b 2 := by
  by_cases hlen : b.length < 8
  · rw [ofBytes?_of_short hlen] at h
    cases h
  · rw [ofBytes?_of_header (by omega)] at h
    split at h
    · cases h
      rfl
    · split at h <;> cases h
      rfl

/-- Another sign word leaves the rest of a buffer what it is, unless the groups are not read. -/
theorem ofBytes?_positive {b : Bytes} (hnan : wordAt b 2 ≠ nanSign) :
    ofBytes? (positive b) = (ofBytes? b).map fun n => { n with sign := 0 } := by
  have hzero : (0 : Nat) ≠ nanSign := by decide
  by_cases hlen : b.length < 8
  · rw [ofBytes?_of_short hlen, ofBytes?_of_short (by rwa [length_positive])]
    rfl
  · rw [ofBytes?_of_header (by rw [length_positive]; omega), ofBytes?_of_header (by omega),
      groupsOf_positive, weightOf_positive, length_positive, wordAt_positive_two,
      wordAt_positive b (by decide), wordAt_positive b (by decide), if_neg hnan, if_neg hzero]
    split <;> rfl

end Numeric

open Numeric

/-! ### Values of numeric columns -/

section
variable (name : String) (b : Bytes)

/-- The result for a numeric that cannot be read. -/
def unreadNumeric : Except Failure Value :=
  .error (.invalidType name "decodable value" "undecodable NUMERIC")

theorem numeric?_eq (format : Format) : Cell.numeric? ⟨1700, format, b⟩ =
    match format with
    | .text => (Cell.asText? ⟨1700, format, b⟩).map fun s => .text (String.ofList s)
    | .binary => (ofBytes? b).map fun n => .text n.text := by
  have hname : Text.lower (Oid.typeName 1700) = "numeric".toList := by decide
  rw [Cell.numeric?, hname]
  rfl

theorem decode?_numeric (format : Format) :
    Cell.decode? ⟨1700, format, b⟩ = Cell.numeric? ⟨1700, format, b⟩ := by
  have hcategory : TypeCategory.ofTypeName (Oid.typeName 1700) .postgres = .decimal := by decide
  have htext : Cell.text? ⟨1700, format, b⟩ = none := rfl
  have hbytes : Cell.bytes? ⟨1700, format, b⟩ = none := rfl
  rw [Cell.decode?, hcategory, htext, hbytes]
  cases h : Cell.numeric? ⟨1700, format, b⟩ <;> simp [Cell.typed?, h]

theorem value_binary : value .binary (numericField name) (some b) =
    match ofBytes? b with
    | some n => .ok (.text n.text)
    | none => unreadNumeric name := by
  rw [value, numericField]
  simp only [decode?_numeric, numeric?_eq]
  cases ofBytes? b <;> rfl

theorem value_text (s : String) :
    value .text (numericField name) (some (Text.utf8 s)) = .ok (.text s) := by
  have hread : Text.ofUtf8? (Text.utf8 s) = some s := Text.ofUtf8?_eq_some_iff.mpr rfl
  rw [value, numericField]
  simp only [decode?_numeric, numeric?_eq, Cell.asText?, hread, Option.map_some, String.ofList_toList]

end

/-- **What a sign word does.**  A binary numeric cannot be read exactly if its header is not all there or,
unless its sign word is that of what is not a number, a group is missing.  With that sign word it is read
under its name.  With any other one but the minus sign it is read as the positive number of the same
groups: digits, with a point if the header asks for any after it.  In text form a value is what the
server writes. -/
theorem value_of_sign (name : String) (b : Bytes) :
    (value .binary (numericField name) (some b) = unreadNumeric name ↔
      b.length < 8 ∨ wordAt b 2 ≠ nanSign ∧ b.length < 8 + 2 * wordAt b 0) ∧
    (8 ≤ b.length → wordAt b 2 = nanSign →
      value .binary (numericField name) (some b) = .ok (.text "NaN")) ∧
    (wordAt b 2 ≠ nanSign → wordAt b 2 ≠ negativeSign →
      value .binary (numericField name) (some b) =
        value .binary (numericField name) (some (positive b)) ∧
      (8 + 2 * wordAt b 0 ≤ b.length → ∃ whole fraction : List Char,
        value .binary (numericField name) (some b) =
          .ok (.text (String.ofList (whole ++ if wordAt b 3 = 0 then [] else '.' :: fraction))) ∧
        whole ≠ [] ∧ fraction.length = wordAt b 3 ∧ ∀ c ∈ whole ++ fraction, c.isDigit)) ∧
    ∀ s : String, value .text (numericField name) (some (Text.utf8 s)) = .ok (.text s) := by
  refine ⟨?_, fun hlen hnan => ?_, fun hnan hneg => ⟨?_, fun hlen => ?_⟩, value_text name⟩
  · rw [value_binary, ← (decoding_exact b).1]
    cases ofBytes? b <;> simp [unreadNumeric]
  · rw [value_binary, ofBytes?_of_header hlen, if_pos hnan]
    simp only [text, hnan, if_true]
  · rw [value_binary, value_binary, ofBytes?_positive hnan]
    cases hread : ofBytes? b with
    | none => rfl
    | some n =>
        have hsign := sign_of_ofBytes? hread
        rw [← hsign] at hnan hneg
        exact congrArg (Except.ok ∘ Value.text) (text_of_other_sign hnan hneg)
  · obtain ⟨whole, fraction, htext, hwhole, hscale, hdigits⟩ :=
      exists_text (n := ⟨groupsOf b, weightOf b, wordAt b 2, wordAt b 3⟩) hnan hneg
    refine ⟨whole, fraction, ?_, hwhole, hscale, hdigits⟩
    rw [value_binary, ofBytes?_of_header (by omega), if_neg hnan, if_neg (by omega)]
    exact congrArg (Except.ok ∘ Value.text) htext

/-! ### The infinities -/

/-- The positive infinity as a server sends it in binary form, with 32 digits to be shown. -/
def infinity : Bytes := [0, 0, 0, 0, 0xD0, 0, 0, 0x20]

theorem value_of_sign_infinity :
    wordAt infinity 2 ≠ nanSign ∧ wordAt infinity 2 ≠ negativeSign ∧
    8 + 2 * wordAt infinity 0 ≤ infinity.length ∧
    (∃ whole fraction : List Char, value .binary (numericField "n") (some infinity) =
      .ok (.text (String.ofList (whole ++ '.' :: fraction))) ∧
      whole ≠ [] ∧ fraction.length = 32 ∧ ∀ c ∈ whole ++ fraction, c.isDigit) ∧
    value .text (numericField "n") (some (Text.utf8 "Infinity")) = .ok (.text "Infinity") := by
  have hnan : wordAt infinity 2 ≠ nanSign := by decide
  have hneg : wordAt infinity 2 ≠ negativeSign := by decide
  have hlen : 8 + 2 * wordAt infinity 0 ≤ infinity.length := by decide
  obtain ⟨-, -, hfinite, htext⟩ := value_of_sign "n" infinity
  obtain ⟨whole, fraction, hread, hwhole, hscale, hdigits⟩ := (hfinite hnan hneg).2 hlen
  have hshown : wordAt infinity 3 = 32 := by decide
  rw [hshown] at hread hscale
  exact ⟨hnan, hneg, hlen, ⟨whole, fraction, hread, hwhole, hscale, hdigits⟩, htext "Infinity"⟩

/-- A reply of one numeric. -/
def numericReply (content : Bytes) : Reply := ⟨[numericField "n"], [[some content]], "SELECT 1", none, none⟩

/-- The same infinity is zero to a statement with parameters, and infinity to one without. -/
theorem infinity_read_as_zero :
    wordAt infinity 2 ≠ 0 ∧ wordAt infinity 2 ≠ negativeSign ∧
    fetch [.int 1] (numericReply infinity) =
      .ok ⟨["n"], [[.text "0.00000000000000000000000000000000"]]⟩ ∧
    fetch [] (numericReply (Text.utf8 "Infinity")) = .ok ⟨["n"], [[.text "Infinity"]]⟩ := by
  refine ⟨by decide, by decide, ?_, ?_⟩
  · cbv
  · cbv

end SqlSession.Postgres
