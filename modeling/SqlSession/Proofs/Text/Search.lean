import Mathlib.Data.List.Basic
import SqlSession.Text.Search

/-! # Cuts and pieces

A cut takes a text apart at one character and says what that character is not in; putting the parts
together again gives the text.  The pieces of a text are found again in it as long as none of them
holds the character between them. -/

namespace SqlSession.Text

variable {c : Char} {s a b : List Char}

/-! ### The first occurrence -/

theorem cutAt_append (h : c ∉ s) (t : List Char) : cutAt c (s ++ c :: t) = some (s, t) := by
  induction s with
  | nil => exact if_pos rfl
  | cons d r ih =>
      rw [List.mem_cons, not_or] at h
      rw [List.cons_append, cutAt, if_neg (Ne.symm h.1), ih h.2]
      rfl

theorem cutAt_of_not_mem (h : c ∉ s) : cutAt c s = none := by
  induction s with
  | nil => rfl
  | cons d r ih =>
      rw [List.mem_cons, not_or] at h
      rw [cutAt, if_neg (Ne.symm h.1), ih h.2]
      rfl

/-- What stands before a cut does not hold the character. -/
theorem eq_of_cutAt (h : cutAt c s = some (a, b)) : c ∉ a ∧ s = a ++ c :: b := by
  induction s generalizing a with
  | nil => cases h
  | cons d r ih =>
      rw [cutAt] at h
      split at h
      · rename_i hd
        obtain ⟨rfl, rfl⟩ := Prod.mk.inj (Option.some.inj h)
        exact ⟨List.not_mem_nil, by rw [hd]; rfl⟩
      · rename_i hd
        obtain ⟨⟨a', b'⟩, hcut, hab⟩ := Option.map_eq_some_iff.1 h
        obtain ⟨rfl, rfl⟩ := Prod.mk.inj hab
        obtain ⟨hmem, rfl⟩ := ih hcut
        refine ⟨?_, rfl⟩
        rw [List.mem_cons, not_or]
        exact ⟨fun hc => hd hc.symm, hmem⟩

theorem not_mem_of_cutAt (h : cutAt c s = none) : c ∉ s := by
  intro hmem
  obtain ⟨a, b, rfl, hc⟩ := List.eq_append_cons_of_mem hmem
  rw [cutAt_append hc] at h
  cases h

/-! ### The last occurrence -/

theorem cutAtLast_append (s : List Char) {t : List Char} (h : c ∉ t) :
    cutAtLast c (s ++ c :: t) = some (s, t) := by
  have hrev : (s ++ c :: t).reverse = t.reverse ++ c :: s.reverse := by simp
  rw [cutAtLast, hrev, cutAt_append (by rwa [List.mem_reverse])]
  simp

theorem cutAtLast_of_not_mem (h : c ∉ s) : cutAtLast c s = none := by
  rw [cutAtLast, cutAt_of_not_mem (by rwa [List.mem_reverse])]
  rfl

theorem not_mem_of_cutAtLast (h : cutAtLast c s = none) : c ∉ s := by
  rw [← List.mem_reverse]
  exact not_mem_of_cutAt (Option.map_eq_none_iff.1 h)

/-- What stands after a cut at the last occurrence does not hold the character. -/
theorem eq_of_cutAtLast (h : cutAtLast c s = some (a, b)) : c ∉ b ∧ s = a ++ c :: b := by
  obtain ⟨⟨a', b'⟩, hcut, hab⟩ := Option.map_eq_some_iff.1 h
  obtain ⟨rfl, rfl⟩ := Prod.mk.inj hab
  obtain ⟨hmem, hs⟩ := eq_of_cutAt hcut
  refine ⟨by rwa [List.mem_reverse], ?_⟩
  rw [← s.reverse_reverse, hs]
  simp

/-! ### Two in a row -/

/-- A text without the character cannot hold it twice in a row. -/
theorem cutAtText_append_of_not_mem (h : c ∉ s) (t : List Char) :
    cutAtText [c, c] (s ++ t) = (cutAtText [c, c] t).map fun (a, b) => (s ++ a, b) := by
  induction s with
  | nil => simp
  | cons d r ih =>
      rw [List.mem_cons, not_or] at h
      have hd : ([c, c] : List Char).isPrefixOf (d :: (r ++ t)) = false := by
        simp [List.isPrefixOf, h.1]
      rw [List.cons_append, cutAtText, hd, if_neg Bool.false_ne_true, ih h.2, Option.map_map]
      rfl

theorem cutAtText_cons_of_ne {d : Char} (h : d ≠ c) (t : List Char) :
    cutAtText [c, c] (c :: d :: t) = (cutAtText [c, c] (d :: t)).map fun (a, b) => (c :: a, b) := by
  have hd : ([c, c] : List Char).isPrefixOf (c :: d :: t) = false := by
    simp [List.isPrefixOf, h.symm]
  rw [cutAtText, hd, if_neg Bool.false_ne_true]

theorem cutAtText_double (t : List Char) : cutAtText [c, c] (c :: c :: t) = some ([], t) := by
  have hd : ([c, c] : List Char).isPrefixOf (c :: c :: t) = true := by
    simp [List.isPrefixOf]
  rw [cutAtText, hd, if_pos rfl]
  rfl

/-! ### Pieces -/

theorem pieces_ne_nil (c : Char) : ∀ s, pieces c s ≠ []
  | [] => List.cons_ne_nil _ _
  | d :: r => by
      rw [pieces]
      split
      · exact List.cons_ne_nil _ _
      · split <;> exact List.cons_ne_nil _ _

theorem pieces_append (h : c ∉ s) (t : List Char) : pieces c (s ++ c :: t) = s :: pieces c t := by
  induction s with
  | nil =>
      obtain ⟨first, later, hp⟩ := List.exists_cons_of_ne_nil (pieces_ne_nil c t)
      simp only [List.nil_append, pieces, hp, ↓reduceIte]
  | cons d r ih =>
      rw [List.mem_cons, not_or] at h
      rw [List.cons_append, pieces, ih h.2]
      exact if_neg (Ne.symm h.1)

theorem pieces_of_not_mem (h : c ∉ s) : pieces c s = [s] := by
  induction s with
  | nil => rfl
  | cons d r ih =>
      rw [List.mem_cons, not_or] at h
      rw [pieces, ih h.2]
      exact if_neg (Ne.symm h.1)

/-- No piece holds the character. -/
theorem not_mem_of_mem_pieces {p : List Char} (h : p ∈ pieces c s) : c ∉ p := by
  induction s generalizing p with
  | nil =>
      obtain rfl := List.mem_singleton.1 h
      exact List.not_mem_nil
  | cons d r ih =>
      obtain ⟨first, later, hp⟩ := List.exists_cons_of_ne_nil (pieces_ne_nil c r)
      simp only [pieces, hp] at h ih
      split at h
      · rcases List.mem_cons.1 h with rfl | h
        · exact List.not_mem_nil
        · exact ih h
      · rename_i hd
        rcases List.mem_cons.1 h with rfl | h
        · rw [List.mem_cons, not_or]
          exact ⟨fun hc => hd hc.symm, ih List.mem_cons_self⟩
        · exact ih (List.mem_cons_of_mem _ h)

/-- Pieces put together are found again. -/
theorem pieces_flatMap {p : List Char} {l : List (List Char)} (hp : c ∉ p) (hl : ∀ q ∈ l, c ∉ q) :
    pieces c (p ++ l.flatMap (c :: ·)) = p :: l := by
  induction l generalizing p with
  | nil => rw [List.flatMap_nil, List.append_nil, pieces_of_not_mem hp]
  | cons q l ih =>
      rw [List.flatMap_cons, List.cons_append, pieces_append hp,
        ih (hl q List.mem_cons_self) fun x hx => hl x (List.mem_cons_of_mem _ hx)]

/-! ### What a text starts with -/

theorem afterPrefix_append : ∀ (lead s : List Char), afterPrefix lead (lead ++ s) = some s
  | [], _ => rfl
  | p :: lead, s => by rw [List.cons_append, afterPrefix, if_pos rfl, afterPrefix_append lead s]

end SqlSession.Text
