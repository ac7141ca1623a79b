import SqlSession.Proofs.Text.Utf8
import SqlSession.Row

/-! # Text and octets in columns

One protocol delivers a text as text and another one as its octets.  No getter of a column tells the two
apart but by the kind that a failure shows, and neither does its required form on a row
(`getters_of_text`). -/

namespace SqlSession

/-- The getters of a column. -/
inductive Getter where
  | int64
  | uint64
  | float64
  | string
  | bool
  | buffer

namespace Getter

/-- The type that a getter coerces to. -/
def Result : Getter → Type
  | int64 => Int64
  | uint64 => UInt64
  | float64 => Double
  | string => String
  | bool => Bool
  | buffer => Bytes

/-- What a getter does. -/
def get : (g : Getter) → Column → Except Failure (Option g.Result)
  | int64 => Column.int64
  | uint64 => Column.uint64
  | float64 => Column.float64
  | string => Column.string
  | bool => Column.bool
  | buffer => Column.buffer

end Getter

/-- Two results are one value, or failures of one coercion of a column. -/
inductive Alike (name : String) {α : Type} : Except Failure α → Except Failure α → Prop
  | value (a : α) : Alike name (.ok a) (.ok a)
  | mismatch (expected found found' : String) : Alike name (.error (.invalidType name expected found))
      (.error (.invalidType name expected found'))

theorem Alike.map {name : String} {α β : Type} {r r' : Except Failure α} (h : Alike name r r')
    (f : α → β) : Alike name (r.map f) (r'.map f) := by
  cases h with
  | value a => exact .value (f a)
  | mismatch expected found found' => exact .mismatch expected found found'

namespace Column

section

variable {c : Column} {expected : String} {read : List Char → Option α}
  {ofInt : Int64 → Except Failure α} {ofUInt : UInt64 → Except Failure α}
  {ofFloat : Double → Except Failure α}

theorem numeric_of_null (hv : c.value = .null) :
    c.numeric expected read ofInt ofUInt ofFloat = .ok none := by
  rw [numeric, hv]

theorem numeric_of_text {s : String} (hv : c.value = .text s) :
    c.numeric expected read ofInt ofUInt ofFloat = (c.readText read s expected).map some := by
  rw [numeric, hv]

/-- Octets are read as the text that they encode. -/
theorem numeric_of_bytes {b : Bytes} {s : String} (hv : c.value = .bytes b)
    (hb : Text.ofUtf8? b = some s) :
    c.numeric expected read ofInt ofUInt ofFloat = (c.readText read s expected).map some := by
  simp only [numeric, hv, textOf, hb, bind, Except.bind]
  cases c.readText read s expected <;> rfl

theorem readText_alike {d : Column} (hname : d.name = c.name) (s : String) :
    Alike c.name (c.readText read s expected) (d.readText read s expected) := by
  rw [readText, readText]
  cases read (Text.trim s.toList) with
  | some a => exact .value a
  | none =>
      rw [mismatch, mismatch, hname]
      exact .mismatch _ _ _

end

/-! ### Getters -/

/-- Whether a getter gives alike results of a text and of its octets, none of them missing. -/
def BothGive (getter : Column → Except Failure (Option α)) (name s : String) : Prop :=
  ∃ r r' : Except Failure α, Alike name r r' ∧
    getter ⟨name, .text s⟩ = r.map some ∧ getter ⟨name, .bytes (Text.utf8 s)⟩ = r'.map some

variable (name s : String)

theorem numeric_bothGive (expected : String) (read : List Char → Option α)
    (ofInt : Column → Int64 → Except Failure α) (ofUInt : Column → UInt64 → Except Failure α)
    (ofFloat : Column → Double → Except Failure α) :
    BothGive (fun c => c.numeric expected read (ofInt c) (ofUInt c) (ofFloat c)) name s := by
  let c : Column := ⟨name, .text s⟩
  let d : Column := ⟨name, .bytes (Text.utf8 s)⟩
  have halike : Alike name (c.readText read s expected) (d.readText read s expected) :=
    readText_alike (c := c) (d := d) rfl s
  refine ⟨_, _, halike, ?_, ?_⟩
  · exact numeric_of_text (c := c) rfl
  · exact numeric_of_bytes (c := d) rfl (Text.ofUtf8?_eq_some_iff.mpr rfl)

theorem int64_bothGive : BothGive Column.int64 name s :=
  numeric_bothGive name s "int64" Number.int64? _ _ _

theorem uint64_bothGive : BothGive Column.uint64 name s :=
  numeric_bothGive name s "uint64" Number.uint64? _ _ _

theorem float64_bothGive : BothGive Column.float64 name s :=
  numeric_bothGive name s "float64" Double.ofText? _ _ _

theorem string_bothGive : BothGive Column.string name s := by
  refine ⟨.ok s, .ok s, .value s, rfl, ?_⟩
  simp only [string, textOf, Text.ofUtf8?_eq_some_iff.mpr rfl]

/-- A truth value is that of the integer; if there is none, the failures differ in the kind they show. -/
theorem bool_bothGive : BothGive Column.bool name s := by
  obtain ⟨r, r', h, ht, hb⟩ := int64_bothGive name s
  simp only [BothGive, bool, ht, hb]
  cases h with
  | value i => exact ⟨.ok (i != 0), .ok (i != 0), .value _, rfl, rfl⟩
  | mismatch => exact ⟨.error _, .error _, .mismatch "bool" "string" "bytes", rfl, rfl⟩

theorem buffer_bothGive : BothGive Column.buffer name s :=
  ⟨.ok (Text.utf8 s), .ok (Text.utf8 s), .value _, rfl, rfl⟩

theorem get_bothGive : ∀ g : Getter, BothGive g.get name s
  | .int64 => int64_bothGive name s
  | .uint64 => uint64_bothGive name s
  | .float64 => float64_bothGive name s
  | .string => string_bothGive name s
  | .bool => bool_bothGive name s
  | .buffer => buffer_bothGive name s

end Column

/-! ### Required getters -/

namespace Row

variable {r : Row} {name : String} {c : Column}

theorem required_of_isEmpty (hc : r.get? name = some c) (he : c.value.isEmpty = true)
    (getter : Column → Except Failure (Option α)) :
    r.required name getter = .error (.requiredEmpty name) := by
  have hnone : (r.get? name).filter (!·.value.isEmpty) = none := by
    rw [hc, Option.filter_some_neg]
    simp [he]
  rw [required, hnone]

/-- Of a column that holds something the required form of a getter gives what the getter gives. -/
theorem required_of_get {getter : Column → Except Failure (Option α)} {x : Except Failure α}
    (hc : r.get? name = some c) (he : c.value.isEmpty = false) (hx : getter c = x.map some) :
    r.required name getter = x := by
  have hfound : (r.get? name).filter (!·.value.isEmpty) = some c := by
    rw [hc, Option.filter_some_pos]
    simp [he]
  rw [required, hfound]
  cases x with
  | ok a => simp [hx, Except.map]
  | error f => simp [hx, Except.map]

end Row

theorem Text.utf8_eq_nil_iff {s : String} : Text.utf8 s = [] ↔ s = "" := by
  rw [Text.utf8, List.flatMap_eq_nil_iff, ← String.toList_eq_nil_iff]
  constructor
  · intro h
    exact List.eq_nil_iff_forall_not_mem.mpr fun c hc => Text.utf8Char_ne_nil c (h c hc)
  · intro h
    rw [h]
    exact List.forall_mem_nil _

/-- **Text and octets coerce alike.**  On a column that holds a text and on one that holds its octets, each
getter returns the same value or fails with a mismatch that names the column.  The required getters do so
on rows with these columns, unless the text is empty, which is a missing value in both forms. -/
theorem getters_of_text (name s : String) :
    (∀ g : Getter, Alike name (g.get ⟨name, .text s⟩) (g.get ⟨name, .bytes (Text.utf8 s)⟩)) ∧
    ∀ r r' : Row, r.get? name = some ⟨name, .text s⟩ →
      r'.get? name = some ⟨name, .bytes (Text.utf8 s)⟩ → ∀ g : Getter,
      (s = "" → r.required name g.get = .error (.requiredEmpty name) ∧
        r'.required name g.get = .error (.requiredEmpty name)) ∧
      (s ≠ "" → Alike name (r.required name g.get) (r'.required name g.get)) := by
  refine ⟨fun g => ?_, fun r r' hr hr' g => ⟨fun hs => ?_, fun hs => ?_⟩⟩
  · obtain ⟨x, x', h, ht, hb⟩ := Column.get_bothGive name s g
    rw [ht, hb]
    exact h.map some
  · have hoctets : (Text.utf8 s).isEmpty = true := List.isEmpty_iff.mpr (Text.utf8_eq_nil_iff.mpr hs)
    exact ⟨Row.required_of_isEmpty hr (String.isEmpty_iff.mpr hs) g.get,
      Row.required_of_isEmpty hr' hoctets g.get⟩
  · obtain ⟨x, x', h, ht, hb⟩ := Column.get_bothGive name s g
    have htext : s.isEmpty = false := Bool.eq_false_iff.mpr (mt String.isEmpty_iff.mp hs)
    have hoctets : (Text.utf8 s).isEmpty = false :=
      Bool.eq_false_iff.mpr fun he => hs (Text.utf8_eq_nil_iff.mp (List.isEmpty_iff.mp he))
    rw [Row.required_of_get hr htext ht, Row.required_of_get hr' hoctets hb]
    exact h

/-- A text that is no integer is no truth value in either form, and the failures show which form it had. -/
theorem getters_of_text_yes :
    let r := Row.ofColumns [⟨"b", .text "yes"⟩]
    let r' := Row.ofColumns [⟨"b", .bytes (Text.utf8 "yes")⟩]
    r.get? "b" = some ⟨"b", .text "yes"⟩ ∧ r'.get? "b" = some ⟨"b", .bytes (Text.utf8 "yes")⟩ ∧
    "yes" ≠ "" ∧ Alike "b" (r.required "b" Getter.bool.get) (r'.required "b" Getter.bool.get) ∧
    r.required "b" Getter.bool.get = .error (.invalidType "b" "bool" "string") ∧
    r'.required "b" Getter.bool.get = .error (.invalidType "b" "bool" "bytes") := by
  have hne : "yes" ≠ "" := by decide
  exact ⟨rfl, rfl, hne, ((getters_of_text "b" "yes").2 _ _ rfl rfl .bool).2 hne, rfl, rfl⟩

end SqlSession
