import SqlSession.Param
import SqlSession.Proofs.Json.Canonical
import SqlSession.Proofs.Json.Reading
import SqlSession.Proofs.Text.Base64

/-! # Parameters written as JSON and read back

JSON has no octets, so they are written as text; and since a text is tried as text before it is tried as
octets, text is what they are read back as.  Every other parameter that JSON can carry without loss is read
back as it was, from the JSON value and from its text (`reads_back_but_octets`). -/

namespace SqlSession.Param

open Number

/-- Whether JSON has a form of its own for a parameter: doubles apart, and of JSON only arrays and objects
without doubles, with the names of each object in order. -/
def Portable : Param → Prop
  | .null | .bool _ | .int _ | .string _ | .bytes _ => True
  | .float _ => False
  | .json (.arr items) => (Json.arr items).Ordered ∧ (Json.arr items).Plain
  | .json (.obj members) => (Json.obj members).Ordered ∧ (Json.obj members).Plain
  | .json _ => False

/-! ### What a value is read as -/

theorem ofJson_int (z : Int) : ofJson (.int z) =
    match toInt64? z with
    | some w => .int w
    | none => .float (Double.ofInt z) := by
  simp only [ofJson, Form.all, List.findSome?, Form.read?]
  cases toInt64? z <;> rfl

theorem ofJson_str (s : String) : ofJson (.str s) = .string s := rfl

theorem ofJson_ne_bytes (j : Json) (b : Bytes) : ofJson j ≠ .bytes b := by
  cases j with
  | int z =>
      rw [ofJson_int]
      cases toInt64? z <;> nofun
  | null | bool _ | float _ | str _ | arr _ | obj _ => nofun

/-- As octets a value would be read exactly if they are written so. -/
theorem read?_bytes_iff {j : Json} {b : Bytes} :
    Form.bytes.read? j = some (.bytes b) ↔ j = (Param.bytes b).toJson := by
  cases j with
  | str s =>
      simp [Form.read?, toJson, Text.ofBase64?_eq_some_iff]
  | null | bool _ | int _ | float _ | arr _ | obj _ => simp [Form.read?, toJson]

theorem plain_toJson {p : Param} (h : p.Portable) : p.toJson.Plain := by
  cases p with
  | int i =>
      have hlow := i.le_toInt
      have hhigh := i.toInt_lt
      rw [toJson, Json.Plain]
      omega
  | float x => exact h.elim
  | json j =>
      cases j with
      | arr items => exact h.2
      | obj members => exact h.2
      | null | bool _ | int _ | float _ | str _ => exact h.elim
  | null | bool _ | string _ | bytes _ =>
      rw [toJson, Json.Plain]
      trivial

/-- Octets apart, a portable parameter is read back. -/
theorem ofJson_toJson {p : Param} (h : p.Portable) (hp : ∀ b, p ≠ .bytes b) : ofJson p.toJson = p := by
  cases p with
  | null | bool _ | string _ => rfl
  | int i => rw [toJson, ofJson_int, toInt64?_eq_some_iff.mpr rfl]
  | bytes b => exact absurd rfl (hp b)
  | float x => exact h.elim
  | json j =>
      cases j with
      | arr items => exact congrArg Param.json (Json.canonical_of_ordered h.1)
      | obj members => exact congrArg Param.json (Json.canonical_of_ordered h.1)
      | null | bool _ | int _ | float _ | str _ => exact h.elim

/-! ### Round trips -/

/-- **All but octets are read back.**  Of the parameters that JSON has a form for exactly the octets are
not read back from the value that they are written as: they come back as its text, although their own form
would give them, and so no value is ever read as octets.  What is read of the value is read of its text
too, unless it is nested too deep to be read at all. -/
theorem reads_back_but_octets {p : Param} (h : p.Portable) :
    (ofJson p.toJson = p ↔ ∀ b, p ≠ .bytes b) ∧
    (∀ b, ofJson (Param.bytes b).toJson = .string (Text.base64 b) ∧
      ∀ j, Form.bytes.read? j = some (.bytes b) ↔ j = (Param.bytes b).toJson) ∧
    (∀ j b, ofJson j ≠ .bytes b) ∧
    (p.toJson.depth ≤ Json.depthLimit →
      (Json.parse p.toJson.compact).map ofJson = some (ofJson p.toJson)) := by
  refine ⟨⟨?_, ofJson_toJson h⟩, fun b => ⟨ofJson_str _, fun j => read?_bytes_iff⟩, ofJson_ne_bytes, ?_⟩
  · rintro hread b rfl
    exact ofJson_ne_bytes _ _ hread
  · intro hdepth
    rw [Json.parse_compact (plain_toJson h) hdepth]
    rfl

theorem reads_back_but_octets_nested :
    (Param.json (.obj [("a", .arr [.int (-1), .null]), ("b", .str "c")])).Portable ∧
    ofJson (Param.json (.obj [("a", .arr [.int (-1), .null]), ("b", .str "c")])).toJson =
      .json (.obj [("a", .arr [.int (-1), .null]), ("b", .str "c")]) := by
  have hp : (Param.json (.obj [("a", .arr [.int (-1), .null]), ("b", .str "c")])).Portable := by
    constructor
    · simp only [Json.Ordered, Json.OrderedMembers, Json.OrderedItems, and_true, List.map_cons,
        List.map_nil]
      decide
    · simp only [Json.Plain, Json.PlainMembers, Json.PlainItems, and_true]
      decide
  exact ⟨hp, (reads_back_but_octets hp).1.mpr nofun⟩

/-- The octets 1, 2, 3 are written as a text, and read back as that text. -/
theorem octets_read_as_text :
    (Param.bytes [1, 2, 3]).Portable ∧ (Param.bytes [1, 2, 3]).toJson = .str "AQID" ∧
    ofJson (Param.bytes [1, 2, 3]).toJson = .string "AQID" ∧
    ofJson (Param.bytes [1, 2, 3]).toJson ≠ .bytes [1, 2, 3] := by
  have hwritten : Text.base64 [1, 2, 3] = "AQID" := by decide +kernel
  refine ⟨trivial, congrArg Json.str hwritten, congrArg Param.string hwritten, ofJson_ne_bytes _ _⟩

end SqlSession.Param
