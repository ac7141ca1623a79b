import SqlSession.Json.Parser
import SqlSession.Proofs.Json.Tokens

/-! # JSON texts read back

A value without doubles that is written as a text is read back from it, as long as it is nested no deeper
than texts are read (`parse_compact`).  The reader works on a stack of open containers; the induction is
on the value, and what it carries is that after the tokens of a value the reader stands where it puts
that value (`readValue_toTokens`). -/

namespace SqlSession.Json

open Number

mutual

/-- How many containers are open at once when a value is read. -/
def depth : Json → Nat
  | .arr items => itemsDepth items + 1
  | .obj members => membersDepth members + 1
  | .null | .bool _ | .int _ | .float _ | .str _ => 0

def itemsDepth : List Json → Nat
  | [] => 0
  | j :: r => max (depth j) (itemsDepth r)

def membersDepth : List (String × Json) → Nat
  | [] => 0
  | (_, j) :: r => max (depth j) (membersDepth r)

end

variable {limit : Nat} {stack below : List Open} {value : Json} {ts r : List Token}

/-! ### Steps of the reader -/

/-- Whether tokens start as an item of an array does: neither the array is closed, nor is a member
named. -/
def StartsItem (ts : List Token) : Prop :=
  (∀ r, ts ≠ .arrClose :: r) ∧ ∀ name r, ts ≠ .scalar (.str name) :: .colon :: r

theorem startsItem_toTokens (j : Json) (hr : ∀ t, r ≠ .colon :: t) : StartsItem (j.toTokens ++ r) := by
  cases j <;> simp [StartsItem, toTokens, hr]

theorem startsItem_itemTokens (j : Json) (items : List Json) :
    StartsItem (itemTokens (j :: items) ++ .arrClose :: r) := by
  cases items with
  | nil => exact startsItem_toTokens j (by simp)
  | cons k rest =>
      rw [itemTokens, List.append_assoc]
      exact startsItem_toTokens j (by simp)

theorem readValue_arrOpen (h : StartsItem ts) (hlimit : stack.length < limit) :
    readValue limit stack (.arrOpen :: ts) = readValue limit (.arr [] :: stack) ts := by
  rw [readValue]
  · exact if_pos hlimit
  · exact fun r hr => h.1 r hr

theorem afterValue_comma {items : List Json} (h : StartsItem ts) :
    afterValue limit (.arr items :: below) value (.comma :: ts) =
      readValue limit (.arr (value :: items) :: below) ts := by
  rw [afterValue]
  exact fun name r hr => h.2 name r hr

theorem memberTokens_cons (n : String) (j : Json) (members : List (String × Json)) :
    memberTokens ((n, j) :: members) =
      .scalar (.str n) :: .colon :: (memberTokens ((n, j) :: members)).drop 2 := by
  cases members <;> rfl

/-! ### Reading a value -/

mutual

/-- **After the tokens of a value** the reader puts that value where it belongs. -/
theorem readValue_toTokens : ∀ {j : Json} {stack : List Open} {r : List Token},
    stack.length + j.depth ≤ limit →
    readValue limit stack (j.toTokens ++ r) = afterValue limit stack j r
  | .null, _, _, _ | .bool _, _, _, _ | .int _, _, _, _ | .float _, _, _, _ | .str _, _, _, _ => by
      rw [toTokens, List.singleton_append, readValue]
  | .arr [], stack, r, h => by
      simp only [depth, itemsDepth] at h
      exact if_pos (by omega)
  | .arr (j :: items), stack, r, h => by
      simp only [depth] at h
      rw [toTokens, List.cons_append, List.append_assoc, List.singleton_append,
        readValue_arrOpen (startsItem_itemTokens j items) (by omega),
        readValue_items (by simp) (by omega)]
      rfl
  | .obj [], stack, r, h => by
      simp only [depth, membersDepth] at h
      exact if_pos (by omega)
  | .obj ((n, j) :: members), stack, r, h => by
      simp only [depth] at h
      rw [toTokens, List.cons_append, List.append_assoc, List.singleton_append,
        memberTokens_cons n j members, List.cons_append, List.cons_append, readValue, if_pos (by omega),
        readValue_members rfl (by omega)]
      rfl

theorem readValue_items : ∀ {items acc : List Json} {below : List Open} {r : List Token}, items ≠ [] →
    below.length + 1 + itemsDepth items ≤ limit →
    readValue limit (.arr acc :: below) (itemTokens items ++ .arrClose :: r) =
      afterValue limit below (.arr (acc.reverse ++ items)) r
  | [], _, _, _, hne, _ => absurd rfl hne
  | [j], acc, below, r, _, h => by
      simp only [itemsDepth] at h
      rw [itemTokens, readValue_toTokens (by simp; omega), afterValue, List.reverse_cons]
  | j :: k :: items, acc, below, r, _, h => by
      rw [itemsDepth] at h
      rw [itemTokens, List.append_assoc, readValue_toTokens (by simp; omega), List.cons_append,
        afterValue_comma (startsItem_itemTokens k items), readValue_items (by simp) (by omega),
        List.reverse_cons, List.append_assoc, List.singleton_append]

theorem readValue_members : ∀ {members acc : List (String × Json)} {n : String} {below : List Open}
    {r : List Token}, members.head?.map Prod.fst = some n →
    below.length + 1 + membersDepth members ≤ limit →
    readValue limit (.obj acc n :: below) ((memberTokens members).drop 2 ++ .objClose :: r) =
      afterValue limit below (.obj (acc.reverse ++ members)) r
  | [], _, _, _, _, hn, _ => by cases hn
  | [(n, j)], acc, _, below, r, hn, h => by
      obtain rfl := Option.some.inj hn
      simp only [membersDepth] at h
      rw [memberTokens, List.drop_succ_cons, List.drop_succ_cons, List.drop_zero,
        readValue_toTokens (by simp; omega), afterValue, List.reverse_cons]
  | (n, j) :: (m, k) :: members, acc, _, below, r, hn, h => by
      obtain rfl := Option.some.inj hn
      rw [membersDepth] at h
      rw [memberTokens, List.cons_append, List.drop_succ_cons, List.cons_append, List.drop_succ_cons,
        List.drop_zero, List.append_assoc, readValue_toTokens (by simp; omega),
        memberTokens_cons m k members, List.cons_append, List.cons_append, List.cons_append, afterValue,
        readValue_members rfl (by omega), List.reverse_cons, List.append_assoc, List.singleton_append]

end

/-! ### Reading a text -/

theorem parse_of_lexes {s : List Char} {j : Json} (hs : Lexes s (j.toTokens ++ []))
    (hdepth : j.depth ≤ depthLimit) : parse (String.ofList s) = some j := by
  rw [parse, parseWithin, String.toList_ofList, hs.tokens]
  exact readValue_toTokens (by simpa using hdepth)

/-- **A written value is read back.** -/
theorem parse_compact {j : Json} (hplain : j.Plain) (hdepth : j.depth ≤ depthLimit) :
    parse j.compact = some j := by
  have hlex := lexes_compactText hplain endsNumber_nil lexes_nil
  rw [List.append_nil] at hlex
  exact parse_of_lexes hlex hdepth

/-- An integer's numeral is read as that integer. -/
theorem parse_integral {s : List Char} {z : Int} (h : Integral s z) (hlow : -2 ^ 63 ≤ z)
    (hhigh : z < 2 ^ 64) : parse (String.ofList s) = some (integralValue s z) := by
  have hlex := lexes_nil.integral h endsNumber_nil hlow hhigh
  have hscalar : (integralValue s z).toTokens = [.scalar (integralValue s z)] ∧
      (integralValue s z).depth = 0 := by
    rw [integralValue]
    split <;> exact ⟨rfl, rfl⟩
  rw [List.append_nil] at hlex
  exact parse_of_lexes (by rwa [hscalar.1]) (by rw [hscalar.2]; exact Nat.zero_le _)

end SqlSession.Json
