import SqlSession.Proofs.Text.Words
import SqlSession.Statement.Lock

/-! # Where a lock clause goes

A statement has a body and, if its last character that is not white space is a semicolon, a stop
(`HasBody`).  Whether the body ends in a lock clause is said here of its characters (`EndsInClause`), and
told by its last words (`endsInLockClause_iff`).  Locking adds the clause to a body without one and keeps
the stop, so that nothing is left to add to what it gives (`locked_adds_clause`). -/

namespace SqlSession.Statement

open Text (Blank Trimmed IsWord upperAscii)

/-! ### The last words of a text -/

/-- Whether a text spells a word, up to the case of ASCII letters. -/
def Spells (word : String) (s : List Char) : Prop := upperAscii s = word.toList

instance (word : String) (s : List Char) : Decidable (Spells word s) :=
  inferInstanceAs (Decidable (_ = _))

/-- Whether these are the last words of a text, the last one first, in any case and with any white space
between them. -/
def EndsIn : List String → List Char → Prop
  | [], _ => True
  | word :: earlier, s => ∃ front gap written, s = front ++ gap ++ written ∧ Spells word written ∧
      Blank gap ∧ (gap = [] → front = []) ∧ EndsIn earlier front

/-- Whether a text ends in a lock clause, with or without one of the two waiting options. -/
def EndsInClause (s : List Char) : Prop :=
  EndsIn ["UPDATE", "FOR"] s ∨ EndsIn ["NOWAIT", "UPDATE", "FOR"] s ∨
    EndsIn ["LOCKED", "SKIP", "UPDATE", "FOR"] s

/-- The words of a text in upper case, the last one first. -/
def shouted (s : List Char) : List String :=
  ((Text.words s).map fun w => String.ofList (upperAscii w)).reverse

section
variable {s front gap written : List Char} {word : String} {ws : List String} {c : Char}

/-- White space has no case. -/
theorem toUpper_of_isBlank (hc : Text.isBlank c = true) : c.toUpper = c := by
  by_contra hne
  have hlower : c.toNat ≥ 97 ∧ c.toNat ≤ 122 := by
    unfold Char.toUpper at hne
    split at hne
    · rename_i h
      exact ⟨h.1, h.2⟩
    · exact absurd rfl hne
  simp only [Text.isBlank, Bool.or_eq_true, Bool.and_eq_true, decide_eq_true_eq, beq_iff_eq] at hc
  omega

theorem Spells.isWord (hs : Spells word written) (hw : IsWord word.toList) : IsWord written := by
  unfold Spells upperAscii at hs
  refine ⟨fun hnil => hw.1 (by rw [← hs, hnil]; rfl), fun c hc => ?_⟩
  by_contra hblank
  rw [Bool.not_eq_false] at hblank
  have hmem : c ∈ word.toList := by
    rw [← hs, ← toUpper_of_isBlank hblank]
    exact List.mem_map_of_mem hc
  rw [hw.2 c hmem] at hblank
  cases hblank

theorem shouted_concat (hb : Blank gap) (hgap : gap = [] → front = []) (hw : IsWord written) :
    shouted (front ++ gap ++ written) = String.ofList (upperAscii written) :: shouted front := by
  rw [shouted, Text.words_concat hb hgap hw, List.map_append, List.reverse_append]
  rfl

theorem prefix_of_endsIn (hw : ∀ w ∈ ws, IsWord w.toList) (h : EndsIn ws s) : ws <+: shouted s := by
  induction ws generalizing s with
  | nil => exact List.nil_prefix
  | cons word earlier ih =>
      have ⟨hword, hrest⟩ := List.forall_mem_cons.mp hw
      obtain ⟨front, gap, written, rfl, hs, hb, hgap, hfront⟩ := h
      rw [shouted_concat hb hgap (hs.isWord hword), hs, String.ofList_toList]
      exact List.cons_prefix_cons.mpr ⟨rfl, ih hrest hfront⟩

theorem endsIn_of_prefix (ht : Trimmed s) (h : ws <+: shouted s) : EndsIn ws s := by
  induction ws generalizing s with
  | nil => trivial
  | cons word earlier ih =>
      have hne : s ≠ [] := by
        rintro rfl
        exact absurd h.length_le (by simp [shouted, Text.words, Text.leadingWord])
      obtain ⟨front, gap, written, rfl, hfront, hb, hgap, hw⟩ := Text.exists_last_word ht hne
      rw [shouted_concat hb hgap hw] at h
      obtain ⟨rfl, hrest⟩ := List.cons_prefix_cons.mp h
      exact ⟨front, gap, written, rfl, String.toList_ofList.symm, hb, hgap, ih hfront hrest⟩

/-- **A trimmed text ends in words exactly if they are the last ones that white space separates.** -/
theorem endsIn_iff (ht : Trimmed s) (hw : ∀ w ∈ ws, IsWord w.toList) :
    EndsIn ws s ↔ ws <+: shouted s :=
  ⟨prefix_of_endsIn hw, endsIn_of_prefix ht⟩

theorem endsInLockWords_iff {l : List String} : endsInLockWords l = true ↔
    ["UPDATE", "FOR"] <+: l ∨ ["NOWAIT", "UPDATE", "FOR"] <+: l ∨
      ["LOCKED", "SKIP", "UPDATE", "FOR"] <+: l := by
  constructor
  · intro h
    unfold endsInLockWords at h
    split at h
    · exact .inr (.inr ⟨_, rfl⟩)
    · exact .inr (.inl ⟨_, rfl⟩)
    · exact .inl ⟨_, rfl⟩
    · cases h
  · rintro (⟨_, rfl⟩ | ⟨_, rfl⟩ | ⟨_, rfl⟩) <;> rfl

/-- The words of a trimmed text tell whether it ends in a lock clause. -/
theorem endsInLockClause_iff (ht : Trimmed s) : endsInLockClause s = true ↔ EndsInClause s := by
  have hplain : ∀ w ∈ ["UPDATE", "FOR"], IsWord w.toList := by decide
  have hnowait : ∀ w ∈ ["NOWAIT", "UPDATE", "FOR"], IsWord w.toList := by decide
  have hskip : ∀ w ∈ ["LOCKED", "SKIP", "UPDATE", "FOR"], IsWord w.toList := by decide
  rw [EndsInClause, endsIn_iff ht hplain, endsIn_iff ht hnowait, endsIn_iff ht hskip]
  exact endsInLockWords_iff

theorem EndsIn.concat (h : EndsIn ws front) (hs : Spells word written) (hb : Blank gap)
    (hgap : gap ≠ []) : EndsIn (word :: ws) (front ++ gap ++ written) :=
  ⟨front, gap, written, rfl, hs, hb, fun hnil => absurd hnil hgap, h⟩

theorem endsInClause_append (s : List Char) : EndsInClause (s ++ lockClause) := by
  have hnone : EndsIn [] s := trivial
  have hfor : EndsIn ["FOR"] (s ++ [' '] ++ ['F', 'O', 'R']) :=
    hnone.concat (by decide) (by decide) (by decide)
  have hupdate : EndsIn ["UPDATE", "FOR"]
      (s ++ [' '] ++ ['F', 'O', 'R'] ++ [' '] ++ ['U', 'P', 'D', 'A', 'T', 'E']) :=
    hfor.concat (by decide) (by decide) (by decide)
  simp only [List.append_assoc] at hupdate
  exact .inl hupdate

/-- A text that ends in a word has its last letter. -/
theorem getLast?_of_endsIn (hw : IsWord word.toList) (h : EndsIn (word :: ws) s) :
    s.getLast?.map Char.toUpper = word.toList.getLast? := by
  obtain ⟨front, gap, written, rfl, hs, -⟩ := h
  obtain ⟨r, c, rfl⟩ := (List.eq_nil_or_concat written).resolve_left (hs.isWord hw).1
  rw [← hs]
  simp [upperAscii]

theorem EndsIn.trimmed (hw : IsWord word.toList) (h : EndsIn (word :: ws) s) : Trimmed s := by
  obtain ⟨front, gap, written, rfl, hs, -⟩ := h
  exact (hs.isWord hw).trimmed_append

/-- A lock clause ends in a word, and that word not in a semicolon. -/
theorem EndsInClause.exists_word (h : EndsInClause s) : ∃ word ws, IsWord word.toList ∧
    word.toList.getLast? ≠ some ';' ∧ EndsIn (word :: ws) s := by
  rcases h with h | h | h
  · exact ⟨"UPDATE", ["FOR"], by decide, by decide, h⟩
  · exact ⟨"NOWAIT", ["UPDATE", "FOR"], by decide, by decide, h⟩
  · exact ⟨"LOCKED", ["SKIP", "UPDATE", "FOR"], by decide, by decide, h⟩

theorem EndsInClause.getLast?_ne (h : EndsInClause s) : s.getLast? ≠ some ';' := by
  obtain ⟨word, ws, hw, hlast, hends⟩ := h.exists_word
  intro hstop
  have hword := getLast?_of_endsIn hw hends
  rw [hstop] at hword
  exact hlast hword.symm

theorem EndsInClause.trimmed (h : EndsInClause s) : Trimmed s := by
  obtain ⟨word, ws, hw, -, hends⟩ := h.exists_word
  exact hends.trimmed hw

end

/-! ### Body and stop -/

/-- A statement with its body and its stop: the body is what is left without the white space at the end,
one semicolon there and the white space before that. -/
inductive HasBody : List Char → List Char → List Char → Prop
  | stopped {body gap tail : List Char} (hbody : Trimmed body) (hgap : Blank gap) (htail : Blank tail) :
      HasBody (body ++ gap ++ ';' :: tail) body [';']
  | unstopped {body tail : List Char} (hbody : Trimmed body) (hlast : body.getLast? ≠ some ';')
      (htail : Blank tail) : HasBody (body ++ tail) body []

variable {s body stop : List Char}

theorem HasBody.trimmed (h : HasBody s body stop) : Trimmed body := by
  cases h <;> assumption

theorem HasBody.stop_cases (h : HasBody s body stop) : stop = [] ∨ stop = [';'] := by
  cases h
  · exact .inr rfl
  · exact .inl rfl

theorem beforeSemicolon?_concat (s : List Char) : beforeSemicolon? (s ++ [';']) = some s := by
  rw [beforeSemicolon?, List.getLast?_concat, if_pos rfl, List.dropLast_concat]

theorem bodyOf_of_hasBody (h : HasBody s body stop) : bodyOf s = (body, !stop.isEmpty) := by
  cases h with
  | @stopped _ gap tail hbody hgap htail =>
      have htrim : Text.trimEnd (body ++ gap ++ ';' :: tail) = body ++ gap ++ [';'] := by
        rw [List.append_cons]
        exact Text.trimEnd_append (Text.trimmed_concat (by decide)) htail
      rw [bodyOf, htrim]
      simp only [beforeSemicolon?_concat, Text.trimEnd_append hbody hgap]
      rfl
  | @unstopped _ tail hbody hlast htail =>
      rw [bodyOf, Text.trimEnd_append hbody htail]
      simp only [beforeSemicolon?, if_neg hlast]
      rfl

theorem exists_hasBody (s : List Char) : ∃ body stop, HasBody s body stop := by
  obtain ⟨tail, hs, htail, htrim⟩ := Text.exists_trimEnd s
  by_cases hlast : (Text.trimEnd s).getLast? = some ';'
  · obtain ⟨front, hfront⟩ := List.getLast?_eq_some_iff.mp hlast
    obtain ⟨gap, hbody, hgap, htrim'⟩ := Text.exists_trimEnd front
    rw [hfront, hbody, List.append_assoc, List.singleton_append] at hs
    exact ⟨Text.trimEnd front, [';'], hs ▸ .stopped htrim' hgap htail⟩
  · refine ⟨Text.trimEnd s, [], ?_⟩
    have hbody := HasBody.unstopped htrim hlast htail
    rwa [← hs] at hbody

/-- A statement has a stop exactly if its last character that is not white space is a semicolon. -/
theorem HasBody.stop_iff (h : HasBody s body stop) :
    stop = [';'] ↔ ∃ front tail, s = front ++ ';' :: tail ∧ Blank tail := by
  cases h with
  | @stopped _ gap tail _ _ htail => exact ⟨fun _ => ⟨body ++ gap, tail, rfl, htail⟩, fun _ => rfl⟩
  | @unstopped _ tail hbody hlast htail =>
      refine ⟨nofun, fun ⟨front, tail', he, htail'⟩ => absurd ?_ hlast⟩
      have hsame : body = front ++ [';'] := by
        rw [← Text.trimEnd_append hbody htail, he, List.append_cons]
        exact Text.trimEnd_append (Text.trimmed_concat (by decide)) htail'
      rw [hsame, List.getLast?_concat]

theorem lockedText_of_hasBody (h : HasBody s body stop) : lockedText s =
    body ++ (if endsInLockClause body then [] else lockClause) ++ stop := by
  rw [lockedText, bodyOf_of_hasBody h]
  cases h <;> by_cases he : endsInLockClause body = true <;> simp [he]

/-- A body that ends in a lock clause is the body of itself and its stop. -/
theorem hasBody_append (hc : EndsInClause body) (hs : stop = [] ∨ stop = [';']) :
    HasBody (body ++ stop) body stop := by
  rcases hs with rfl | rfl
  · exact .unstopped hc.trimmed hc.getLast?_ne Text.blank_nil
  · have h := HasBody.stopped hc.trimmed Text.blank_nil Text.blank_nil
    rwa [List.append_nil] at h

/-- **A lock clause is added where there is none.**  Locking keeps the body and the stop of a statement,
and drops the white space after each.  It adds the clause exactly if the body does not end in one.  So the
result has a stop if the statement has one, its body ends in a lock clause, and locking it again does
nothing. -/
theorem locked_adds_clause (s : String) :
    locked (locked s) = locked s ∧
    ((locked s).toList.getLast? = some ';' ↔
      ∃ front tail, s.toList = front ++ ';' :: tail ∧ Blank tail) ∧
    ∃ body stop clause, HasBody s.toList body stop ∧ (locked s).toList = body ++ clause ++ stop ∧
      EndsInClause (body ++ clause) ∧
      (EndsInClause body ∧ clause = [] ∨ ¬ EndsInClause body ∧ clause = " FOR UPDATE".toList) := by
  obtain ⟨body, stop, hb⟩ := exists_hasBody s.toList
  have hstop := hb.stop_cases
  have htext : (locked s).toList = lockedText s.toList := String.toList_ofList
  rw [lockedText_of_hasBody hb] at htext
  obtain ⟨clause, hclause, hends, hcases⟩ : ∃ clause,
      clause = (if endsInLockClause body then [] else lockClause) ∧ EndsInClause (body ++ clause) ∧
      (EndsInClause body ∧ clause = [] ∨ ¬ EndsInClause body ∧ clause = lockClause) := by
    by_cases he : endsInLockClause body = true
    · have hin := (endsInLockClause_iff hb.trimmed).mp he
      exact ⟨[], (if_pos he).symm, by rwa [List.append_nil], .inl ⟨hin, rfl⟩⟩
    · refine ⟨lockClause, (if_neg he).symm, endsInClause_append body, .inr ⟨fun hin => he ?_, rfl⟩⟩
      exact (endsInLockClause_iff hb.trimmed).mpr hin
  rw [← hclause] at htext
  have hagain : HasBody (locked s).toList (body ++ clause) stop := by
    rw [htext]
    exact hasBody_append hends hstop
  refine ⟨?_, ?_, body, stop, clause, hb, htext, hends, hcases⟩
  · have hkept := lockedText_of_hasBody hagain
    rw [if_pos ((endsInLockClause_iff hagain.trimmed).mpr hends), List.append_nil, ← htext] at hkept
    rw [locked, hkept, String.ofList_toList]
  · rw [← hb.stop_iff, htext]
    rcases hstop with rfl | rfl
    · rw [List.append_nil]
      exact ⟨fun h => absurd h hends.getLast?_ne, nofun⟩
    · rw [List.getLast?_concat]
      exact ⟨fun _ => rfl, fun _ => rfl⟩

/-- The clause goes before the semicolon. -/
example : locked "SELECT 1 ;  " = "SELECT 1 FOR UPDATE;" := by decide +kernel

end SqlSession.Statement
