import Mathlib.Data.List.Induction
import SqlSession.Text.Blank

/-! # Words at the end of a text

A text is what trimming leaves of it and white space (`exists_trimEnd`), and a trimmed text that is not
empty is what comes before its last word, a gap, and that word (`exists_last_word`).  So the words of a
text can be taken off its end one by one. -/

namespace SqlSession.Text

/-- Whether a text is nothing but white space. -/
def Blank (s : List Char) : Prop := ∀ c ∈ s, isBlank c = true

/-- Whether a text does not end in white space. -/
def Trimmed (s : List Char) : Prop := ∀ c, s.getLast? = some c → isBlank c = false

/-- Whether a text is a word: it is not empty and holds no white space. -/
def IsWord (s : List Char) : Prop := s ≠ [] ∧ ∀ c ∈ s, isBlank c = false

-- The characters are finitely many, so that the instance has to be said: found by search, it can be the
-- one that tries them all.
instance (s : List Char) : Decidable (Blank s) := List.decidableBAll (isBlank · = true) s

instance (s : List Char) : Decidable (IsWord s) :=
  have := List.decidableBAll (isBlank · = false) s
  inferInstanceAs (Decidable (s ≠ [] ∧ _))

variable {s a b gap w : List Char} {c : Char}

theorem blank_nil : Blank [] := fun _ hc => by cases hc

theorem trimmed_nil : Trimmed [] := nofun

theorem trimmed_concat (hc : isBlank c = false) : Trimmed (s ++ [c]) := by
  intro d hd
  rw [List.getLast?_concat] at hd
  exact Option.some.inj hd ▸ hc

theorem Trimmed.of_cons {r : List Char} (h : Trimmed (c :: r)) : Trimmed r := by
  intro d hd
  apply h d
  rw [List.getLast?_cons, hd]
  rfl

theorem IsWord.trimmed_append (hw : IsWord w) : Trimmed (s ++ w) := by
  obtain ⟨r, c, rfl⟩ := (List.eq_nil_or_concat w).resolve_left hw.1
  rw [List.concat_eq_append, ← List.append_assoc]
  exact trimmed_concat (hw.2 c (by simp))

/-! ### Trimming -/

theorem trimEnd_of_blank (hb : Blank s) : trimEnd s = [] := by
  induction s with
  | nil => rfl
  | cons c r ih =>
      have hr : trimEnd r = [] := ih fun d hd => hb d (List.mem_cons_of_mem c hd)
      rw [trimEnd, hr]
      exact if_pos (hb c List.mem_cons_self)

/-- Trimming takes off the white space at the end. -/
theorem trimEnd_append (ht : Trimmed s) (hb : Blank gap) : trimEnd (s ++ gap) = s := by
  induction s with
  | nil => exact trimEnd_of_blank hb
  | cons c r ih =>
      rw [List.cons_append, trimEnd]
      cases r with
      | nil =>
          rw [List.nil_append, trimEnd_of_blank hb]
          have hc : isBlank c = false := ht c rfl
          exact if_neg (by simp [hc])
      | cons d r =>
          rw [ih ht.of_cons]

/-- And it takes off no more. -/
theorem exists_trimEnd : ∀ s : List Char, ∃ gap, s = trimEnd s ++ gap ∧ Blank gap ∧ Trimmed (trimEnd s)
  | [] => ⟨[], rfl, blank_nil, trimmed_nil⟩
  | c :: r => by
      obtain ⟨gap, hr, hgap, htrim⟩ := exists_trimEnd r
      rw [trimEnd]
      cases he : trimEnd r with
      | nil =>
          rw [he, List.nil_append] at hr
          subst hr
          by_cases hc : isBlank c = true
          · refine ⟨c :: r, by rw [if_pos hc]; rfl, ?_, by rw [if_pos hc]; exact trimmed_nil⟩
            intro d hd
            rcases List.mem_cons.mp hd with rfl | hd
            · exact hc
            · exact hgap d hd
          · refine ⟨r, by rw [if_neg hc]; rfl, hgap, ?_⟩
            rw [if_neg hc]
            exact trimmed_concat (s := []) (by simpa using hc)
      | cons d kept =>
          rw [he] at hr htrim
          refine ⟨gap, congrArg (c :: ·) hr, hgap, fun e hlast => htrim e ?_⟩
          rwa [List.getLast?_cons_cons] at hlast

theorem blank_of_trimEnd (h : trimEnd s = []) : Blank s := by
  obtain ⟨gap, hs, hgap, -⟩ := exists_trimEnd s
  rw [hs, h]
  exact hgap

/-- Trimming takes off the white space around a word. -/
theorem trim_append (ha : Blank a) (hw : IsWord w) (hb : Blank b) : trim (a ++ w ++ b) = w := by
  obtain ⟨c, r, rfl⟩ := List.exists_cons_of_ne_nil hw.1
  have hc : isBlank c = false := hw.2 c List.mem_cons_self
  rw [trim, trimStart, List.append_assoc, List.dropWhile_append_of_pos ha, List.cons_append,
    List.dropWhile_cons_of_neg (by simp [hc]), ← List.cons_append]
  exact trimEnd_append (hw.trimmed_append (s := [])) hb

/-- A text is what trimming leaves of it, with white space around. -/
theorem exists_trim (s : List Char) : ∃ a b, s = a ++ trim s ++ b ∧ Blank a ∧ Blank b := by
  obtain ⟨b, hs, hb, -⟩ := exists_trimEnd (trimStart s)
  refine ⟨s.takeWhile isBlank, b, ?_, List.all_eq_true.mp List.all_takeWhile, hb⟩
  rw [trim, List.append_assoc, ← hs, trimStart, List.takeWhile_append_dropWhile]

/-! ### Words -/

theorem leadingWord_append (hc : isBlank c = true) :
    leadingWord (a ++ c :: b) = ((leadingWord a).1, (leadingWord a).2 ++ words b) := by
  induction a with
  | nil =>
      rw [List.nil_append, leadingWord]
      exact if_pos hc
  | cons d r ih =>
      rw [List.cons_append, leadingWord, leadingWord, ih]
      by_cases hd : isBlank d = true
      · simp only [hd, if_true]
        split <;> rfl
      · simp only [if_neg hd]

/-- White space separates words. -/
theorem words_append (hc : isBlank c = true) : words (a ++ c :: b) = words a ++ words b := by
  rw [words, leadingWord_append hc]
  by_cases hw : (leadingWord a).1.isEmpty = true
  · simp only [words, hw, if_true]
  · simp only [words, if_neg hw, List.cons_append]

theorem words_blank_append (hb : Blank gap) : words (gap ++ b) = words b := by
  induction gap with
  | nil => rfl
  | cons c r ih =>
      have hsplit := words_append (a := []) (b := r ++ b) (hb c List.mem_cons_self)
      rw [List.nil_append] at hsplit
      rw [List.cons_append, hsplit, ih fun d hd => hb d (List.mem_cons_of_mem c hd)]
      rfl

theorem words_append_gap (hb : Blank gap) (hgap : gap ≠ []) :
    words (a ++ gap ++ b) = words a ++ words b := by
  cases gap with
  | nil => exact absurd rfl hgap
  | cons c r =>
      rw [List.append_assoc, List.cons_append, words_append (hb c List.mem_cons_self),
        words_blank_append fun d hd => hb d (List.mem_cons_of_mem c hd)]

theorem leadingWord_of_unbroken (h : ∀ c ∈ w, isBlank c = false) : leadingWord w = (w, []) := by
  induction w with
  | nil => rfl
  | cons c r ih =>
      rw [leadingWord, ih fun d hd => h d (List.mem_cons_of_mem c hd)]
      simp [h c List.mem_cons_self]

theorem words_of_isWord (hw : IsWord w) : words w = [w] := by
  have hne : w.isEmpty = false := by simpa using hw.1
  rw [words, leadingWord_of_unbroken hw.2]
  simp [hne]

/-- The last word of a text comes after those before it. -/
theorem words_concat (hb : Blank gap) (hgap : gap = [] → a = []) (hw : IsWord w) :
    words (a ++ gap ++ w) = words a ++ [w] := by
  by_cases he : gap = []
  · rw [hgap he, he, List.append_nil, List.nil_append, words_of_isWord hw]
    rfl
  · rw [words_append_gap hb he, words_of_isWord hw]

/-- A trimmed text that is not empty ends in a word. -/
theorem exists_last_word (ht : Trimmed s) (hs : s ≠ []) : ∃ front gap w, s = front ++ gap ++ w ∧
    Trimmed front ∧ Blank gap ∧ (gap = [] → front = []) ∧ IsWord w := by
  induction s using List.reverseRecOn with
  | nil => exact absurd rfl hs
  | append_singleton r c ih =>
      have hc : isBlank c = false := ht c List.getLast?_concat
      have hword : IsWord [c] := ⟨List.cons_ne_nil c [], List.forall_mem_singleton.mpr hc⟩
      obtain ⟨gap, hr, hgap, htrim⟩ := exists_trimEnd r
      by_cases hnil : gap = []
      · -- the character belongs to the last word of what comes before it, if there is any
        rw [hnil, List.append_nil] at hr
        rw [← hr] at htrim
        by_cases hrne : r = []
        · subst hrne
          exact ⟨[], [], [c], rfl, trimmed_nil, blank_nil, fun _ => rfl, hword⟩
        · obtain ⟨front, gap, w, rfl, hfront, hblank, hstart, hw⟩ := ih htrim hrne
          refine ⟨front, gap, w ++ [c], by rw [List.append_assoc], hfront, hblank, hstart, ?_, ?_⟩
          · exact List.append_ne_nil_of_left_ne_nil hw.1 [c]
          · exact List.forall_mem_append.mpr ⟨hw.2, hword.2⟩
      · exact ⟨trimEnd r, gap, [c], by rw [← hr], htrim, hgap, fun he => absurd he hnil, hword⟩

end SqlSession.Text
