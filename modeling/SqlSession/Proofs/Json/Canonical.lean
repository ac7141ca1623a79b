import SqlSession.Json.Basic

/-! # The canonical form of JSON values

A value is `Ordered` if the names of each of its objects ascend, so that none comes twice.  The canonical
form changes nothing of such a value (`canonical_of_ordered`). -/

namespace SqlSession.Json

mutual

/-- Whether the names of every object ascend. -/
def Ordered : Json → Prop
  | .arr items => OrderedItems items
  | .obj members => (members.map Prod.fst).Pairwise (· < ·) ∧ OrderedMembers members
  | .null | .bool _ | .int _ | .float _ | .str _ => True

def OrderedItems : List Json → Prop
  | [] => True
  | j :: r => Ordered j ∧ OrderedItems r

def OrderedMembers : List (String × Json) → Prop
  | [] => True
  | (_, j) :: r => Ordered j ∧ OrderedMembers r

end

variable {name : String} {value : Json} {members : List (String × Json)}

/-- A member whose name comes after all others goes to the end. -/
theorem putMember_of_greatest (h : ∀ n ∈ members.map Prod.fst, n < name) :
    putMember name value members = members ++ [(name, value)] := by
  induction members with
  | nil => rfl
  | cons m r ih =>
      have hm : m.1 < name := h m.1 (by simp)
      have hne : name ≠ m.1 := fun he => String.lt_irrefl m.1 (by rwa [he] at hm)
      rw [putMember, if_neg (String.lt_asymm hm), if_neg hne,
        ih fun n hn => h n (List.mem_cons_of_mem _ hn)]
      rfl

mutual

theorem canonical_of_ordered : ∀ {j : Json}, j.Ordered → j.canonical = j
  | .arr items, h => by
      rw [Ordered] at h
      rw [canonical, canonicalItems_of_ordered h]
  | .obj members, h => by
      rw [Ordered] at h
      rw [canonical]
      exact congrArg obj (canonicalMembers_of_ordered h.1 h.2)
  | .null, _ | .bool _, _ | .int _, _ | .float _, _ | .str _, _ => rfl

theorem canonicalItems_of_ordered : ∀ {items : List Json}, OrderedItems items →
    canonicalItems items = items
  | [], _ => rfl
  | _ :: _, h => by rw [canonicalItems, canonical_of_ordered h.1, canonicalItems_of_ordered h.2]

/-- Members in order are put one behind the other. -/
theorem canonicalMembers_of_ordered : ∀ {members sorted : List (String × Json)},
    ((sorted ++ members).map Prod.fst).Pairwise (· < ·) → OrderedMembers members →
    canonicalMembers sorted members = sorted ++ members
  | [], sorted, _, _ => by rw [canonicalMembers, List.append_nil]
  | (n, j) :: r, sorted, hs, ho => by
      have hgreatest : ∀ k ∈ sorted.map Prod.fst, k < n := by
        rw [List.map_append] at hs
        intro k hk
        exact (List.pairwise_append.mp hs).2.2 k hk n List.mem_cons_self
      have hr : ((sorted ++ [(n, j)] ++ r).map Prod.fst).Pairwise (· < ·) := by
        rwa [List.append_assoc, List.singleton_append]
      rw [canonicalMembers, canonical_of_ordered ho.1, putMember_of_greatest hgreatest,
        canonicalMembers_of_ordered hr ho.2, List.append_assoc, List.singleton_append]

end

end SqlSession.Json
