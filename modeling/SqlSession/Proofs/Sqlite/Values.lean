import Mathlib.Data.List.Forall2
import SqlSession.Proofs.Text.Utf8
import SqlSession.Sqlite.Decode

/-! # Stored values and the types of their columns

The type name of a column says which readings of a value are tried first, and nothing more.  Whatever the
name, a value that has no such reading is read by its storage class (`dynamic?_carries`), so that none is
refused and none becomes a null.  Only three categories have a reading of their own (`typed?_readAs`): of
truth values, of points in time and of octets.  In every other one the stored value is what comes out
(`stored_values_kept`). -/

namespace SqlSession.Sqlite

/-- Whether a value is the stored one: of its storage class, and the same in it.  Text that is not
well-formed is its octets. -/
inductive Carries : Stored → Value → Prop
  | null : Carries .null .null
  | integer (i : Int64) : Carries (.integer i) (.int i)
  | real (x : Double) : Carries (.real x) (.float x)
  | text (s : String) : Carries (.text (Text.utf8 s)) (.text s)
  | malformed {b : Bytes} (hb : ∀ s, b ≠ Text.utf8 s) : Carries (.text b) (.bytes b)
  | blob (b : Bytes) : Carries (.blob b) (.bytes b)

/-- How a value may be read in a column of a category: as it is stored, or as what the category is about. -/
inductive ReadAs : TypeCategory → Stored → Value → Prop
  | stored {c : TypeCategory} {v : Stored} {w : Value} (h : Carries v w) : ReadAs c v w
  | truth (i : Int64) : ReadAs .boolean (.integer i) (.bool (i != 0))
  | time {v : Stored} {s : String} (h : temporal? v = some (.text s)) : ReadAs .temporal v (.text s)
  | octets (b : Bytes) : ReadAs .binary (.text b) (.bytes b)

variable {c : TypeCategory} {v : Stored} {w : Value}

theorem Carries.null_iff (h : Carries v w) : w = .null ↔ v = .null := by
  cases h <;> simp

theorem ReadAs.carries (h : ReadAs c v w) (hc : c ∉ [.boolean, .temporal, .binary]) : Carries v w := by
  cases h with
  | stored h => exact h
  | _ => simp at hc

/-! ### One value -/

theorem text?_eq_some_iff {b : Bytes} :
    text? (.text b) = some w ↔ ∃ s, b = Text.utf8 s ∧ w = .text s := by
  simp [text?, Text.ofUtf8?_eq_some_iff, eq_comm (a := w)]

theorem dynamic?_carries (hv : v ≠ .null) : ∃ w, dynamic? v = some w ∧ Carries v w := by
  cases v with
  | null => exact absurd rfl hv
  | integer i => exact ⟨_, rfl, .integer i⟩
  | real x => exact ⟨_, rfl, .real x⟩
  | blob b => exact ⟨_, rfl, .blob b⟩
  | text b =>
      cases ht : text? (.text b) with
      | some w =>
          obtain ⟨s, rfl, rfl⟩ := text?_eq_some_iff.mp ht
          exact ⟨_, by rw [dynamic?, ht]; rfl, .text s⟩
      | none =>
          refine ⟨.bytes b, by rw [dynamic?, ht]; rfl, .malformed fun s hs => ?_⟩
          rw [text?_eq_some_iff.mpr ⟨s, hs, rfl⟩] at ht
          cases ht

theorem exists_text_of_temporal? (h : temporal? v = some w) : ∃ s, w = .text s := by
  simp only [temporal?, Option.orElse_eq_orElse, Option.orElse_eq_or, Option.or_eq_some_iff,
    Option.map_eq_some_iff] at h
  rcases h with ⟨t, -, rfl⟩ | ⟨-, ⟨d, -, rfl⟩ | ⟨-, t, -, rfl⟩⟩
  · exact ⟨_, rfl⟩
  · exact ⟨_, rfl⟩
  · exact ⟨_, rfl⟩

/-- A reading of the type gives the stored value or what the category is about. -/
theorem typed?_readAs (h : typed? v c = some w) : ReadAs c v w := by
  have hinteger (h : integer? v = some w) : Carries v w := by
    cases v <;> cases h
    exact .integer _
  have hreal (h : real? v = some w) : Carries v w := by
    cases v <;> cases h
    exact .real _
  cases c with
  | integer => exact .stored (hinteger h)
  | unsignedInteger => exact .stored (hinteger h)
  | float => exact .stored (hreal h)
  | decimal => exact .stored (hreal h)
  | boolean =>
      cases v <;> cases h
      exact .truth _
  | temporal =>
      obtain ⟨s, rfl⟩ := exists_text_of_temporal? h
      exact .time h
  | binary =>
      cases v <;> cases h
      · exact .octets _
      · exact .stored (.blob _)
  | json => cases h
  | uuid => cases h
  | unknown => cases h

theorem value_of_ne_null (column typeName : String) (hv : v ≠ .null) : value column typeName v =
    match typed? v (.ofTypeName typeName .sqlite) <|> dynamic? v with
    | some w => .ok w
    | none => .error (.invalidType column "decodable value" ("undecodable " ++ typeName)) := by
  cases v with
  | null => exact absurd rfl hv
  | _ => rfl

/-- **One value.**  It is read, and as something only if it is something. -/
theorem value_readAs (column typeName : String) (v : Stored) :
    ∃ w, value column typeName v = .ok w ∧ (w = .null ↔ v = .null) ∧
      ReadAs (.ofTypeName typeName .sqlite) v w := by
  by_cases hv : v = .null
  · subst hv
    exact ⟨.null, rfl, by simp, .stored .null⟩
  rw [value_of_ne_null column typeName hv]
  cases ht : typed? v (.ofTypeName typeName .sqlite) with
  | some w =>
      have hread := typed?_readAs ht
      refine ⟨w, rfl, ⟨fun hw => ?_, fun h => absurd h hv⟩, hread⟩
      subst hw
      generalize TypeCategory.ofTypeName typeName .sqlite = c at hread
      cases hread with
      | stored h => exact h.null_iff.mp rfl
  | none =>
      obtain ⟨w, hw, hcarries⟩ := dynamic?_carries hv
      exact ⟨w, by rw [hw]; rfl, hcarries.null_iff, .stored hcarries⟩

/-! ### A row -/

/-- A column of a row: its name, the name of its type, and what is stored there. -/
structure Cell where
  name : String
  typeName : String
  stored : Stored
deriving DecidableEq, Repr

/-- **Stored values are kept.**  Whatever types its columns report, a row is read as a whole, with one
value for each column.  The value is a null exactly if a null is stored; in a category that is not about
truth values, points in time or octets it is the stored value, and in these it is read so or as stored. -/
theorem stored_values_kept (row : List Cell) :
    ∃ ws, (row.mapM fun c => value c.name c.typeName c.stored) = .ok ws ∧
      List.Forall₂ (fun c w => (w = .null ↔ c.stored = .null) ∧
        (TypeCategory.ofTypeName c.typeName .sqlite ∉ [.boolean, .temporal, .binary] →
          Carries c.stored w) ∧
        ReadAs (.ofTypeName c.typeName .sqlite) c.stored w) row ws := by
  induction row with
  | nil => exact ⟨[], rfl, .nil⟩
  | cons c row ih =>
      obtain ⟨ws, hws, hkept⟩ := ih
      obtain ⟨w, hw, hnull, hread⟩ := value_readAs c.name c.typeName c.stored
      refine ⟨w :: ws, ?_, .cons ⟨hnull, hread.carries, hread⟩ hkept⟩
      rw [List.mapM_cons, hw, hws]
      rfl

/-- A number and a truth value may be words. -/
example : ([⟨"x", "REAL", .text (Text.utf8 "abc")⟩, ⟨"b", "BOOLEAN", .text (Text.utf8 "yes")⟩,
    ⟨"b", "BOOLEAN", .integer 2⟩, ⟨"n", "REAL", .null⟩] : List Cell).mapM
      (fun c => value c.name c.typeName c.stored) =
    .ok [.text "abc", .text "yes", .bool true, .null] := by decide +kernel

end SqlSession.Sqlite
