import SqlSession.Sqlite.KeyValue.Store

/-! # Open transactions of a store

Only a begin opens a transaction (`isOpen_of_react`), and a commit or a rollback that succeeds ends it
(`not_isOpen_of_react`).  What a statement does leaves the transactions open that were. -/

namespace SqlSession.Sqlite.KeyValue.Store

/-- Whether a connection has an open transaction. -/
def IsOpen (s : Store) (n : ConnId) : Prop := n ∈ s.transactions.map Prod.fst

variable {s t : Store} {c : Option ConnId} {d n : ConnId}

/-! ### Statements -/

theorem isOpen_advance {f : Phase → Phase} : (s.advance c f).IsOpen n ↔ s.IsOpen n := by
  simp [IsOpen, advance]

theorem isOpen_of_publish {table : Table} (h : s.publish c table = .ok t) : t.IsOpen n ↔ s.IsOpen n := by
  unfold publish at h
  split at h
  · cases h
  · cases h
    exact Iff.rfl

theorem isOpen_write {q : Query} : (s.write c q).2.IsOpen n ↔ s.IsOpen n := by
  unfold write
  split
  · exact Iff.rfl
  · simp only
    split
    · exact isOpen_advance
    · exact isOpen_advance
    · split
      · rename_i hpublish
        exact isOpen_of_publish hpublish
      · exact Iff.rfl
    · exact Iff.rfl

theorem isOpen_run {q : Query} : (s.run c q).2.IsOpen n ↔ s.IsOpen n := by
  unfold run
  split
  · exact isOpen_advance
  · exact isOpen_write

theorem isOpen_runText {sql : String} {params : List Param} :
    (s.runText c sql params).2.IsOpen n ↔ s.IsOpen n := by
  unfold runText
  split
  · exact isOpen_run
  · exact Iff.rfl

/-! ### Control statements -/

theorem not_isOpen_forget : ¬ (s.forget n).IsOpen n := by
  simp [IsOpen, forget]

theorem IsOpen.of_forget (h : (s.forget d).IsOpen n) : s.IsOpen n := by
  simp only [IsOpen, forget, List.mem_map, List.mem_filter] at h ⊢
  obtain ⟨p, ⟨hp, -⟩, rfl⟩ := h
  exact ⟨p, hp, rfl⟩

theorem IsOpen.of_begin (hbegin : s.begin d = .ok t) (h : t.IsOpen n) : s.IsOpen n ∨ n = d := by
  unfold Store.begin at hbegin
  split at hbegin
  · cases hbegin
  · cases hbegin
    simpa [IsOpen] using h

/-- What a commit leaves is a store without the transaction. -/
theorem exists_forget_of_commit (h : s.commit d = .ok t) :
    ∃ u : Store, t = u.forget d ∧ (u.IsOpen n ↔ s.IsOpen n) := by
  unfold commit at h
  split at h
  · cases h
  · rename_i table _
    cases hp : s.publish (some d) table with
    | error f =>
        rw [hp] at h
        cases h
    | ok u =>
        rw [hp] at h
        cases h
        exact ⟨u, rfl, isOpen_of_publish hp⟩
  · cases h
    exact ⟨s, rfl, Iff.rfl⟩

theorem eq_forget_of_rollback (h : s.rollback d = .ok t) : t = s.forget d := by
  unfold rollback at h
  split at h
  · cases h
  · cases h
    rfl

/-! ### Calls -/

theorem isOpen_answered {x : Except Failure Reply × Store} : (answered x).2.IsOpen n ↔ x.2.IsOpen n := by
  obtain ⟨r | r, t⟩ := x <;> exact Iff.rfl

/-- Only a begin that succeeds opens a transaction. -/
theorem isOpen_of_react {call : Call} (h : (s.react call).2.IsOpen n) :
    s.IsOpen n ∨ call = .begin n ∧ (s.react call).1.ending = .reply .done := by
  cases call with
  | acquire | pingServer | ping d => exact .inl h
  | begin d =>
      rw [react] at h ⊢
      cases hb : s.begin d with
      | error f =>
          rw [hb] at h
          exact .inl h
      | ok t =>
          rw [hb] at h
          refine (IsOpen.of_begin hb h).imp_right ?_
          rintro rfl
          exact ⟨rfl, rfl⟩
  | commit d =>
      rw [react] at h
      cases hc : s.commit d with
      | error f =>
          rw [hc] at h
          exact .inl h
      | ok t =>
          rw [hc] at h
          obtain ⟨u, rfl, hu⟩ := exists_forget_of_commit hc
          exact .inl (hu.mp (IsOpen.of_forget h))
  | rollback d =>
      rw [react] at h
      cases hr : s.rollback d with
      | error f =>
          rw [hr] at h
          exact .inl h
      | ok t =>
          rw [hr, eq_forget_of_rollback hr] at h
          exact .inl (IsOpen.of_forget h)
  | release d | close d | discard d => exact .inl (IsOpen.of_forget h)
  | fetch target sql params | execute target sql params =>
      rw [react, isOpen_answered] at h
      exact .inl (isOpen_runText.mp h)

/-- A commit or a rollback that succeeds ends the transaction. -/
theorem not_isOpen_of_react {call : Call} (hcall : call = .commit n ∨ call = .rollback n)
    (h : ∃ r, (s.react call).1.ending = .reply r) : ¬ (s.react call).2.IsOpen n := by
  obtain ⟨r, h⟩ := h
  rcases hcall with rfl | rfl
  · rw [react] at h ⊢
    cases hc : s.commit n with
    | error f =>
        rw [hc] at h
        cases h
    | ok t =>
        obtain ⟨u, rfl, -⟩ := exists_forget_of_commit (n := n) hc
        exact not_isOpen_forget
  · rw [react] at h ⊢
    cases hr : s.rollback n with
    | error f =>
        rw [hr] at h
        cases h
    | ok t =>
        rw [eq_forget_of_rollback hr]
        exact not_isOpen_forget

end SqlSession.Sqlite.KeyValue.Store
