import SqlSession.Proofs.Act.Contexts

/-! # Moves of connections

A connection that the server has handed out is in a context, or it has been released, discarded or
dropped.  `Custody` says so of contexts and a journal, and says with it that every call of the journal
was in order when it was made.  A `Move` is what one entry of the journal does to the connection of one
context; every move keeps the custody (`Custody.move`), and so do moves one after the other
(`Custody.moves`). -/

namespace SqlSession

namespace Handle

@[simp] theorem conn?_detached : detached.conn? = none := rfl

@[simp] theorem conn?_connection (c : ConnId) : (connection c).conn? = some c := rfl

@[simp] theorem conn?_transaction (c : ConnId) : (transaction c).conn? = some c := rfl

end Handle

/-! ### What a journal tells -/

namespace Call

def isAcquire : Call → Bool
  | acquire => true
  | _ => false

def released? : Call → Option ConnId
  | release c => some c
  | _ => none

def discarded? : Call → Option ConnId
  | discard c => some c
  | _ => none

/-- Whether the transaction on `c` is open after a call that succeeded. -/
def transact (c : ConnId) (opened : Bool) : Call → Bool
  | begin d => d == c || opened
  | commit d => !(d == c) && opened
  | rollback d => !(d == c) && opened
  | _ => opened

/-- A call that passes no connection on and begins and ends no transaction. -/
def isPlain : Call → Bool
  | acquire => true
  | pingServer => true
  | ping _ => true
  | fetch .. => true
  | execute .. => true
  | _ => false

section
variable {call : Call} (h : call.isPlain = true)
include h

theorem released?_of_isPlain : call.released? = none := by
  cases call <;> simp_all [isPlain, released?]

theorem discarded?_of_isPlain : call.discarded? = none := by
  cases call <;> simp_all [isPlain, discarded?]

theorem transact_of_isPlain (c : ConnId) (opened : Bool) : call.transact c opened = opened := by
  cases call <;> simp_all [isPlain, transact]

end
end Call

namespace Entry

def released? (e : Entry) : Option ConnId := e.call?.bind Call.released?

def discarded? (e : Entry) : Option ConnId := e.call?.bind Call.discarded?

def dropped? : Entry → Option ConnId
  | dropped c => some c
  | _ => none

/-- Whether the transaction on `c` is open after an entry. -/
def transact (c : ConnId) (opened : Bool) : Entry → Bool
  | call t => if t.succeeded then t.call.transact c opened else opened
  | _ => opened

/-- Whether an entry is a call that has handed out a connection. -/
def handsOut : Entry → Bool
  | call t => t.succeeded && t.call.isAcquire
  | _ => false

@[simp] theorem released?_call (t : RoundTrip) : (call t).released? = t.call.released? := rfl

@[simp] theorem discarded?_call (t : RoundTrip) : (call t).discarded? = t.call.discarded? := rfl

@[simp] theorem dropped?_call (t : RoundTrip) : (call t).dropped? = none := rfl

end Entry

namespace Journal

/-- The connections released, in order. -/
def released (j : List Entry) : List ConnId := j.filterMap Entry.released?

/-- The connections discarded, in order. -/
def discarded (j : List Entry) : List ConnId := j.filterMap Entry.discarded?

/-- The connections that went without a call, in order. -/
def dropped (j : List Entry) : List ConnId := j.filterMap Entry.dropped?

/-- Whether the last begin on `c` that succeeded has not been followed by a commit or a rollback that
did. -/
def openOn (c : ConnId) (j : List Entry) : Bool := j.foldl (Entry.transact c) false

/-- The number of connections handed out. -/
def handedOut (j : List Entry) : Nat := j.countP Entry.handsOut

/-- A call that is in order after a journal. -/
structure Lawful (j : List Entry) (call : Call) : Prop where
  present : ∀ c, call.conn? = some c → c ∉ released j ∧ c ∉ discarded j ∧ c ∉ dropped j
  begin_closed : ∀ c, call = .begin c → openOn c j = false
  end_opened : ∀ c, call = .commit c ∨ call = .rollback c → openOn c j = true
  release_closed : ∀ c, call = .release c → openOn c j = false

/-- A plain call needs no more than a connection that is still there. -/
theorem Lawful.of_isPlain {j : List Entry} {call : Call} (h : call.isPlain = true)
    (hpresent : ∀ c, call.conn? = some c → c ∉ released j ∧ c ∉ discarded j ∧ c ∉ dropped j) :
    Lawful j call where
  present := hpresent
  begin_closed := by rintro c rfl; simp [Call.isPlain] at h
  end_opened := by rintro c (rfl | rfl) <;> simp [Call.isPlain] at h
  release_closed := by rintro c rfl; simp [Call.isPlain] at h

section
variable {j : List Entry} {c : ConnId} (h : c ∉ released j ∧ c ∉ discarded j ∧ c ∉ dropped j)
include h

theorem Lawful.begin (ho : openOn c j = false) : Lawful j (.begin c) :=
  ⟨by simpa [Call.conn?] using h, by simpa using ho, by simp, by simp⟩

theorem Lawful.commit (ho : openOn c j = true) : Lawful j (.commit c) :=
  ⟨by simpa [Call.conn?] using h, by simp, by simpa using ho, by simp⟩

theorem Lawful.rollback (ho : openOn c j = true) : Lawful j (.rollback c) :=
  ⟨by simpa [Call.conn?] using h, by simp, by simpa using ho, by simp⟩

theorem Lawful.release (ho : openOn c j = false) : Lawful j (.release c) :=
  ⟨by simpa [Call.conn?] using h, by simp, by simp, by simpa using ho⟩

theorem Lawful.discard : Lawful j (.discard c) :=
  ⟨by simpa [Call.conn?] using h, by simp, by simp, by simp⟩

end

variable (j : List Entry) (e : Entry)

theorem openOn_concat (c : ConnId) : openOn c (j ++ [e]) = e.transact c (openOn c j) := by
  simp only [openOn, List.foldl_append, List.foldl_cons, List.foldl_nil]

theorem released_concat : released (j ++ [e]) = released j ++ e.released?.toList := by
  simp only [released, List.filterMap_append]
  cases h : e.released? <;> simp [h]

theorem discarded_concat : discarded (j ++ [e]) = discarded j ++ e.discarded?.toList := by
  simp only [discarded, List.filterMap_append]
  cases h : e.discarded? <;> simp [h]

theorem dropped_concat : dropped (j ++ [e]) = dropped j ++ e.dropped?.toList := by
  simp only [dropped, List.filterMap_append]
  cases h : e.dropped? <;> simp [h]

theorem handedOut_concat : handedOut (j ++ [e]) = handedOut j + e.handsOut.toNat := by
  simp only [handedOut, List.countP_append, List.countP_singleton]
  cases e.handsOut <;> rfl

end Journal

/-! ### Moves -/

/-- What an entry does to the handle of a context and to the number of connections handed out.  Drops
are possible only if `drops` says so. -/
inductive Move (drops : Prop) : Handle → Nat → Entry → Handle → Nat → Prop
  | event {hd : Handle} {n : Nat} (e : Event) : Move drops hd n (.event e) hd n
  | sample {hd : Handle} {n : Nat} (s : Sample) : Move drops hd n (.sample s) hd n
  | plain {hd : Handle} {n : Nat} {t : RoundTrip} (ht : t.call.isPlain = true)
      (ha : t.call = .acquire → t.succeeded = false)
      (hc : ∀ c, t.call.conn? = some c → hd.conn? = some c) : Move drops hd n (.call t) hd n
  | acquired {n : Nat} {t : RoundTrip} (ht : t.call = .acquire) (hs : t.succeeded = true) :
      Move drops .detached n (.call t) (.connection (n + 1)) (n + 1)
  | begun {n : Nat} {t : RoundTrip} {c : ConnId} (ht : t.call = .begin c) :
      Move drops (.connection c) n (.call t)
        (if t.succeeded then .transaction c else .connection c) n
  | ended {n : Nat} {t : RoundTrip} {c : ConnId} (ht : t.call = .commit c ∨ t.call = .rollback c) :
      Move drops (.transaction c) n (.call t)
        (if t.succeeded then .connection c else .transaction c) n
  | released {n : Nat} {t : RoundTrip} {c : ConnId} (ht : t.call = .release c) :
      Move drops (.connection c) n (.call t) .detached n
  | discarded {hd : Handle} {n : Nat} {t : RoundTrip} {c : ConnId} (hc : hd.conn? = some c)
      (ht : t.call = .discard c) : Move drops hd n (.call t) .detached n
  | dropped {hd : Handle} {n : Nat} {c : ConnId} (hc : hd.conn? = some c) (h : drops) :
      Move drops hd n (.dropped c) .detached n

/-- Moves one after the other. -/
inductive Moves (drops : Prop) (hd : Handle) (n : Nat) : List Entry → Handle → Nat → Prop
  | none : Moves drops hd n [] hd n
  | more {l : List Entry} {hd' hd'' : Handle} {n' n'' : Nat} {e : Entry}
      (hl : Moves drops hd n l hd' n') (he : Move drops hd' n' e hd'' n'') :
      Moves drops hd n (l ++ [e]) hd'' n''

theorem Moves.single {drops : Prop} {hd hd' : Handle} {n n' : Nat} {e : Entry}
    (he : Move drops hd n e hd' n') : Moves drops hd n [e] hd' n' := Moves.none.more he

theorem Moves.append {drops : Prop} {hd hd' hd'' : Handle} {n n' n'' : Nat} {l m : List Entry}
    (hl : Moves drops hd n l hd' n') (hm : Moves drops hd' n' m hd'' n'') :
    Moves drops hd n (l ++ m) hd'' n'' := by
  induction hm with
  | none => simpa using hl
  | more _ he ih =>
      rw [← List.append_assoc]
      exact ih.more he

/-- Without leave to drop, nothing is dropped. -/
theorem Moves.dropped_eq_nil {drops : Prop} (hdrops : ¬ drops) {hd hd' : Handle} {n n' : Nat}
    {l : List Entry} (hl : Moves drops hd n l hd' n') : Journal.dropped l = [] := by
  induction hl with
  | none => rfl
  | more _ he ih =>
      rw [Journal.dropped_concat, ih]
      cases he with
      | dropped _ h => exact absurd h hdrops
      | _ => rfl

/-! ### Custody -/

/-- The connections that contexts hold. -/
def Context.held (l : List Context) : List ConnId := l.filterMap fun c => c.handle.conn?

/-- Every connection handed out is held, released, discarded or dropped, exactly once; the contexts know
which transactions are open; and every call was in order when it was made. -/
structure Custody (l : List Context) (n : Nat) (j : List Entry) : Prop where
  once : (Context.held l ++ Journal.released j ++ Journal.discarded j ++ Journal.dropped j).Perm
    (List.range' 1 n)
  handedOut : Journal.handedOut j = n
  opened : ∀ x ∈ l, ∀ c, x.handle.conn? = some c → Journal.openOn c j = x.handle.inTransaction
  closed : ∀ c, n < c → Journal.openOn c j = false
  lawful : ∀ before t after, j = before ++ .call t :: after → Journal.Lawful before t.call

theorem Context.held_cons (x : Context) (l : List Context) :
    held (x :: l) = x.handle.conn?.toList ++ held l := by
  simp only [held, List.filterMap_cons]
  cases x.handle.conn? <;> rfl

theorem Context.mem_held {x : Context} {l : List Context} {c : ConnId} (hx : x ∈ l)
    (hc : x.handle.conn? = some c) : c ∈ held l := List.mem_filterMap.mpr ⟨x, hx, hc⟩

namespace Move

variable {drops : Prop} {hd hd' : Handle} {n n' : Nat} {e : Entry}

theorem handedOut (hm : Move drops hd n e hd' n') : n + e.handsOut.toNat = n' := by
  cases hm with
  | event => rfl
  | sample => rfl
  | @plain _ _ t ht ha hc =>
      have hnone : (t.succeeded && t.call.isAcquire) = false := by
        cases hcall : t.call with
        | acquire => simp [ha hcall]
        | _ => simp [Call.isAcquire]
      simp [Entry.handsOut, hnone]
  | acquired ht hs => simp [Entry.handsOut, Call.isAcquire, ht, hs]
  | begun ht => simp [Entry.handsOut, Call.isAcquire, ht]
  | ended ht => rcases ht with ht | ht <;> simp [Entry.handsOut, Call.isAcquire, ht]
  | released ht => simp [Entry.handsOut, Call.isAcquire, ht]
  | discarded hc ht => simp [Entry.handsOut, Call.isAcquire, ht]
  | dropped => rfl

/-- A move passes the connection of a context on, or adds the one that it hands out. -/
theorem once (hm : Move drops hd n e hd' n') : ∃ new : List ConnId,
    List.range' 1 n' = List.range' 1 n ++ new ∧ ∀ c,
      hd'.conn?.toList.count c + e.released?.toList.count c + e.discarded?.toList.count c +
        e.dropped?.toList.count c = hd.conn?.toList.count c + new.count c := by
  cases hm with
  | acquired ht hs =>
      refine ⟨[n + 1], ?_, fun c => ?_⟩
      · rw [List.range'_concat]
        simp [Nat.add_comm]
      · simp [ht, Call.released?, Call.discarded?]
  | event => exact ⟨[], by simp, fun c => rfl⟩
  | sample => exact ⟨[], by simp, fun c => rfl⟩
  | plain ht ha hc =>
      refine ⟨[], by simp, fun c => ?_⟩
      simp [Call.released?_of_isPlain ht, Call.discarded?_of_isPlain ht]
  | begun ht =>
      refine ⟨[], by simp, fun c => ?_⟩
      split <;> simp [ht, Call.released?, Call.discarded?]
  | ended ht =>
      refine ⟨[], by simp, fun c => ?_⟩
      rcases ht with ht | ht <;> split <;> simp [ht, Call.released?, Call.discarded?]
  | released ht =>
      exact ⟨[], by simp, fun c => by simp [ht, Call.released?, Call.discarded?]⟩
  | discarded hc ht =>
      exact ⟨[], by simp, fun c => by simp [hc, ht, Call.released?, Call.discarded?]⟩
  | dropped hc h =>
      refine ⟨[], by simp, fun c => ?_⟩
      simp [hc, Entry.released?, Entry.discarded?, Entry.dropped?, Entry.call?, Entry.trip?]

/-- A move leaves the transactions of other connections alone. -/
theorem transact_of_ne (hm : Move drops hd n e hd' n') {c : ConnId} (hc : hd.conn? ≠ some c)
    (opened : Bool) : e.transact c opened = opened := by
  cases hm with
  | event => rfl
  | sample => rfl
  | plain ht ha hc => simp [Entry.transact, Call.transact_of_isPlain ht]
  | acquired ht hs => simp [Entry.transact, Call.transact, ht]
  | @begun _ _ d ht =>
      have hne : ¬ d = c := by simpa using hc
      simp [Entry.transact, Call.transact, ht, hne]
  | @ended _ _ d ht =>
      have hne : ¬ d = c := by simpa using hc
      rcases ht with ht | ht <;> simp [Entry.transact, Call.transact, ht, hne]
  | released ht => simp [Entry.transact, Call.transact, ht]
  | discarded hc ht => simp [Entry.transact, Call.transact, ht]
  | dropped => rfl

/-- A handle knows after a move whether its transaction is open, if it has known before. -/
theorem transact_self (hm : Move drops hd n e hd' n') {c : ConnId} (hc : hd'.conn? = some c)
    {opened : Bool} (ho : hd.conn? = some c → opened = hd.inTransaction)
    (hnew : n < c → opened = false) : e.transact c opened = hd'.inTransaction := by
  cases hm with
  | event => exact ho hc
  | sample => exact ho hc
  | plain ht ha _ => simp [Entry.transact, Call.transact_of_isPlain ht, ho hc]
  | acquired ht hs =>
      obtain rfl : n + 1 = c := by simpa using hc
      simp [Entry.transact, Call.transact, ht, hnew n.lt_succ_self, Handle.inTransaction]
  | @begun _ t d ht =>
      cases hs : t.succeeded <;> simp only [hs, if_true, if_false, Bool.false_eq_true] at hc ⊢ <;>
        obtain rfl : d = c := by simpa using hc
      · simp [Entry.transact, hs, ho rfl]
      · simp [Entry.transact, Call.transact, hs, ht, Handle.inTransaction]
  | @ended _ t d ht =>
      cases hs : t.succeeded <;> simp only [hs, if_true, if_false, Bool.false_eq_true] at hc ⊢ <;>
        obtain rfl : d = c := by simpa using hc
      · simp [Entry.transact, hs, ho rfl]
      · rcases ht with ht | ht <;> simp [Entry.transact, Call.transact, hs, ht, Handle.inTransaction]
  | released ht => simp at hc
  | discarded _ ht => simp at hc
  | dropped => simp at hc

/-- A move is a call that is in order, if the handle knows its connection. -/
theorem lawful {t : RoundTrip} (hm : Move drops hd n (.call t) hd' n') {j : List Entry}
    (hpresent : ∀ c, hd.conn? = some c →
      c ∉ Journal.released j ∧ c ∉ Journal.discarded j ∧ c ∉ Journal.dropped j)
    (ho : ∀ c, hd.conn? = some c → Journal.openOn c j = hd.inTransaction) :
    Journal.Lawful j t.call := by
  cases hm with
  | plain ht _ hc => exact .of_isPlain ht fun c hcall => hpresent c (hc c hcall)
  | acquired ht _ => exact .of_isPlain (by simp [ht, Call.isPlain]) (by simp [ht, Call.conn?])
  | @begun _ _ d ht => exact ht ▸ .begin (hpresent d rfl) (ho d rfl)
  | @ended _ _ d ht =>
      rcases ht with ht | ht
      · exact ht ▸ .commit (hpresent d rfl) (ho d rfl)
      · exact ht ▸ .rollback (hpresent d rfl) (ho d rfl)
  | @released _ _ d ht => exact ht ▸ .release (hpresent d rfl) (ho d rfl)
  | @discarded _ _ _ d hd ht => exact ht ▸ .discard (hpresent d hd)

end Move

/-- Moves one after the other pass the connection of a context on, and those that they hand out. -/
theorem Moves.once {drops : Prop} {hd hd' : Handle} {n n' : Nat} {l : List Entry}
    (hm : Moves drops hd n l hd' n') : ∃ new : List ConnId,
    List.range' 1 n' = List.range' 1 n ++ new ∧ ∀ c,
      hd'.conn?.toList.count c + (Journal.released l).count c + (Journal.discarded l).count c +
        (Journal.dropped l).count c = hd.conn?.toList.count c + new.count c := by
  induction hm with
  | none => exact ⟨[], by simp, fun c => by simp [Journal.released, Journal.discarded, Journal.dropped]⟩
  | more _ he ih =>
      obtain ⟨new, hrange, hpass⟩ := ih
      obtain ⟨new', hrange', hpass'⟩ := he.once
      refine ⟨new ++ new', by rw [hrange', hrange, List.append_assoc], fun c => ?_⟩
      have hc := hpass c
      have hc' := hpass' c
      simp only [Journal.released_concat, Journal.discarded_concat, Journal.dropped_concat,
        List.count_append]
      omega

/-! ### Custody is kept -/

namespace Custody

variable {l l' rest : List Context} {n : Nat} {j : List Entry} {x : Context}

theorem perm (hp : l.Perm l') (hc : Custody l n j) : Custody l' n j where
  once := by
    have hheld : (Context.held l').Perm (Context.held l) := hp.symm.filterMap _
    exact (((hheld.append_right _).append_right _).append_right _).trans hc.once
  handedOut := hc.handedOut
  opened y hy := hc.opened y (hp.mem_iff.mpr hy)
  closed := hc.closed
  lawful := hc.lawful

/-- Contexts that hold nothing do not count. -/
theorem cons_detached (hx : x.handle = .detached) : Custody (x :: l) n j ↔ Custody l n j := by
  have hheld : Context.held (x :: l) = Context.held l := by simp [Context.held_cons, hx]
  constructor
  · intro hc
    exact ⟨hheld ▸ hc.once, hc.handedOut, fun y hy => hc.opened y (List.mem_cons_of_mem x hy),
      hc.closed, hc.lawful⟩
  · intro hc
    refine ⟨hheld ▸ hc.once, hc.handedOut, fun y hy c hyc => ?_, hc.closed, hc.lawful⟩
    rcases List.mem_cons.mp hy with rfl | hy
    · simp [hx] at hyc
    · exact hc.opened y hy c hyc

/-- A connection that is held is nowhere else, and has been handed out. -/
theorem elsewhere (hc : Custody (x :: rest) n j) {c : ConnId} (hx : x.handle.conn? = some c) :
    ¬ n < c ∧ c ∉ Context.held rest ∧
      c ∉ Journal.released j ∧ c ∉ Journal.discarded j ∧ c ∉ Journal.dropped j := by
  have honce := (List.perm_iff_count.mp hc.once) c
  have hle : (List.range' 1 n).count c ≤ 1 := List.nodup_iff_count.mp List.nodup_range' c
  simp only [Context.held_cons, hx, Option.toList_some, List.count_append, List.count_singleton_self]
    at honce
  have hmem : c ∈ List.range' 1 n := List.count_pos_iff.mp (by omega)
  refine ⟨by have := List.mem_range'_1.mp hmem; omega, ?_, ?_, ?_, ?_⟩ <;> intro hother <;>
    have hpos := List.count_pos_iff.mpr hother <;> omega

/-- **A move keeps the custody.** -/
theorem move {drops : Prop} {n' : Nat} {e : Entry} (hc : Custody (x :: rest) n j) (x' : Context)
    (hm : Move drops x.handle n e x'.handle n') : Custody (x' :: rest) n' (j ++ [e]) := by
  have hn := hm.handedOut
  obtain ⟨new, hrange, hpass⟩ := hm.once
  refine ⟨?_, ?_, ?_, ?_, ?_⟩
  · rw [List.perm_iff_count, hrange]
    intro c
    have honce := (List.perm_iff_count.mp hc.once) c
    have hc' := hpass c
    simp only [Context.held_cons, List.count_append, Journal.released_concat,
      Journal.discarded_concat, Journal.dropped_concat] at honce ⊢
    omega
  · rw [Journal.handedOut_concat, hc.handedOut, hn]
  · intro y hy c hyc
    rw [Journal.openOn_concat]
    rcases List.mem_cons.mp hy with rfl | hy
    · exact hm.transact_self hyc (hc.opened x List.mem_cons_self c) (hc.closed c)
    · have hne : x.handle.conn? ≠ some c := fun hx =>
        (hc.elsewhere hx).2.1 (Context.mem_held hy hyc)
      rw [hm.transact_of_ne hne]
      exact hc.opened y (List.mem_cons_of_mem x hy) c hyc
  · intro c hcn
    have hne : x.handle.conn? ≠ some c := fun hx => by
      have := (hc.elsewhere hx).1
      omega
    rw [Journal.openOn_concat, hm.transact_of_ne hne]
    exact hc.closed c (by omega)
  · intro before t after he
    rcases List.eq_nil_or_concat after with rfl | ⟨after', a, rfl⟩
    · obtain ⟨rfl, hcall⟩ := List.append_inj' he rfl
      obtain rfl : e = .call t := by simpa using hcall
      exact hm.lawful (fun c hx => (hc.elsewhere hx).2.2)
        (fun c hx => hc.opened x List.mem_cons_self c hx)
    · rw [List.concat_eq_append, ← List.cons_append, ← List.append_assoc] at he
      exact hc.lawful before t after' (List.append_inj' he rfl).1

/-- Of a context only the handle counts. -/
theorem of_handle_eq {x' : Context} (hx : x'.handle = x.handle) (hc : Custody (x :: rest) n j) :
    Custody (x' :: rest) n j where
  once := by
    have honce := hc.once
    rw [Context.held_cons] at honce ⊢
    rwa [hx]
  handedOut := hc.handedOut
  opened y hy c hyc := by
    rcases List.mem_cons.mp hy with rfl | hy
    · rw [hx] at hyc ⊢
      exact hc.opened x List.mem_cons_self c hyc
    · exact hc.opened y (List.mem_cons_of_mem x hy) c hyc
  closed := hc.closed
  lawful := hc.lawful

/-- Moves of one context, one after the other, keep the custody. -/
theorem moves {drops : Prop} {m : List Entry} {hd' : Handle} {n' : Nat}
    (hc : Custody (x :: rest) n j) (hm : Moves drops x.handle n m hd' n') (x' : Context)
    (hx' : x'.handle = hd') : Custody (x' :: rest) n' (j ++ m) := by
  induction hm generalizing x' with
  | none =>
      rw [List.append_nil]
      exact hc.of_handle_eq hx'
  | @more m hd' hd'' n' n'' e _ he ih =>
      rw [← List.append_assoc]
      subst hx'
      exact (ih { x' with handle := hd' } rfl).move x' he

theorem start : Custody [] 0 [] where
  once := .refl []
  handedOut := rfl
  opened := nofun
  closed _ _ := rfl
  lawful before t after he := by simp at he

/-- The custody of stored contexts, with the context of one id in front; there may be a context that
has yet to be stored. -/
theorem focus (id : String) (l : List Context) : ∃ rest,
    (∀ fresh {n j}, Custody (fresh ++ l) n j ↔ Custody (Context.find id l :: (fresh ++ rest)) n j) ∧
    ∀ x : Context, x.id = id → ∀ {n j}, Custody (x.putInto l) n j ↔ Custody (x :: rest) n j := by
  obtain ⟨rest, hput, hfind⟩ := Context.exists_rest id l
  refine ⟨rest, fun fresh {n j} => ?_, fun x hx {n j} => ⟨perm (hput x hx), perm (hput x hx).symm⟩⟩
  rcases hfind with hperm | ⟨rfl, hnone⟩
  · have hfront : (fresh ++ l).Perm (Context.find id l :: (fresh ++ rest)) :=
      (hperm.append_left fresh).trans List.perm_middle
    exact ⟨perm hfront, perm hfront.symm⟩
  · rw [cons_detached (by rw [hnone]; rfl)]

end Custody

end SqlSession
