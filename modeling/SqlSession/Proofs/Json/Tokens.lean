import SqlSession.Proofs.Json.Numerals
import SqlSession.Proofs.Json.Strings
import SqlSession.Proofs.Text.Search

/-! # The tokens of JSON texts

A value without doubles, whose integers are 64-bit words, is `Plain`.  The text that such a value is
written as is cut into the tokens of the value, whatever follows it (`lexes_compactText`).  The induction
is on the value; what it carries is that the rest has its tokens (`Lexes`), so that nothing is said about
the fuel of the lexer but that it suffices. -/

namespace SqlSession.Json

open Number

/-! ### Values and their tokens -/

mutual

/-- Whether a value has no doubles, and no integers beyond the words of 64 bits, signed or unsigned. -/
def Plain : Json → Prop
  | .int i => -2 ^ 63 ≤ i ∧ i < 2 ^ 64
  | .float _ => False
  | .arr items => PlainItems items
  | .obj members => PlainMembers members
  | .null | .bool _ | .str _ => True

def PlainItems : List Json → Prop
  | [] => True
  | j :: r => Plain j ∧ PlainItems r

def PlainMembers : List (String × Json) → Prop
  | [] => True
  | (_, j) :: r => Plain j ∧ PlainMembers r

end

mutual

/-- The tokens of a value. -/
def toTokens : Json → List Token
  | .arr items => .arrOpen :: (itemTokens items ++ [.arrClose])
  | .obj members => .objOpen :: (memberTokens members ++ [.objClose])
  | .null => [.scalar .null]
  | .bool b => [.scalar (.bool b)]
  | .int i => [.scalar (.int i)]
  | .float x => [.scalar (.float x)]
  | .str s => [.scalar (.str s)]

def itemTokens : List Json → List Token
  | [] => []
  | [j] => toTokens j
  | j :: k :: r => toTokens j ++ .comma :: itemTokens (k :: r)

def memberTokens : List (String × Json) → List Token
  | [] => []
  | [(n, j)] => .scalar (.str n) :: .colon :: toTokens j
  | (n, j) :: m :: r => .scalar (.str n) :: .colon :: toTokens j ++ .comma :: memberTokens (m :: r)

end

/-! ### The lexer -/

/-- Whether a text has given tokens, with all the fuel that the lexer may need. -/
def Lexes (s : List Char) (ts : List Token) : Prop := ∀ fuel, s.length ≤ fuel → tokensWithin fuel s = some ts

variable {s r rest : List Char} {ts : List Token} {t : Token} {c : Char} {z : Int}

theorem Lexes.tokens (h : Lexes s ts) : Json.tokens s = some ts := h s.length (Nat.le_refl _)

theorem lexes_nil : Lexes [] [] := by
  rintro (- | fuel) - <;> rfl

theorem Lexes.cons (hr : Lexes rest ts) (hc : isSpace c = false) (ht : scanToken c r = some (t, rest))
    (hle : rest.length ≤ r.length) : Lexes (c :: r) (t :: ts) := by
  rintro (- | fuel) hfuel
  · cases hfuel
  · have hrest := hr fuel (by simp only [List.length_cons] at hfuel; omega)
    simp [tokensWithin, hc, ht, hrest]

theorem Lexes.mark (hr : Lexes rest ts) (hc : isSpace c = false)
    (ht : scanToken c rest = some (t, rest)) : Lexes (c :: rest) (t :: ts) := hr.cons hc ht (Nat.le_refl _)

/-- A number starts with a minus sign or a digit. -/
theorem scanToken_number (hc : c = '-' ∨ c.isDigit = true) :
    scanToken c r = (scanNumber (c :: r)).map fun (j, rest) => (.scalar j, rest) := by
  unfold scanToken
  split
  case h_11 => rfl
  all_goals exact absurd hc (by decide)

theorem isSpace_number (hc : c = '-' ∨ c.isDigit = true) : isSpace c = false := by
  rw [isSpace]
  simp only [Bool.or_eq_false_iff, beq_eq_false_iff_ne]
  refine ⟨⟨⟨?_, ?_⟩, ?_⟩, ?_⟩
  all_goals
    rintro rfl
    exact absurd hc (by decide)

/-- An integer's numeral is a token. -/
theorem Lexes.integral (hr : Lexes rest ts) (h : Integral s z) (hrest : EndsNumber rest)
    (hlow : -2 ^ 63 ≤ z) (hhigh : z < 2 ^ 64) :
    Lexes (s ++ rest) (.scalar (integralValue s z) :: ts) := by
  have hread := scanNumber_integral h hrest hlow hhigh
  obtain ⟨c, r, rfl, hc⟩ : ∃ c r, s = c :: r ∧ (c = '-' ∨ c.isDigit = true) := by
    cases h with
    | @bare _ n h _ =>
        obtain ⟨c, r, rfl, -⟩ := h.cons
        exact ⟨c, r, rfl, .inr (h.2.1 c List.mem_cons_self)⟩
    | @minus s n h _ => exact ⟨'-', s, rfl, .inl rfl⟩
  refine hr.cons (r := r ++ rest) (isSpace_number hc) ?_ (by simp)
  rw [scanToken_number hc, ← List.cons_append, hread]
  rfl

/-- A string in quotes is a token. -/
theorem Lexes.string (hr : Lexes rest ts) (s : String) :
    Lexes (stringText s ++ rest) (.scalar (.str s) :: ts) := by
  rw [stringText_append]
  refine hr.cons rfl ?_ (by simp; omega)
  rw [scanToken, scanString_written]
  exact congrArg (fun s => some (Token.scalar (.str s), rest)) String.ofList_toList

theorem Lexes.word (hr : Lexes rest ts) (hc : isSpace c = false) {word : List Char} {j : Json}
    (ht : ∀ r, scanToken c r = (Text.afterPrefix word r).map (.scalar j, ·)) :
    Lexes (c :: (word ++ rest)) (.scalar j :: ts) := by
  refine hr.cons hc ?_ (by simp)
  rw [ht, Text.afterPrefix_append]
  rfl

/-! ### Integers -/

theorem head?_toDigits_ne_zero (n : Nat) (hn : 0 < n) : (Nat.toDigits 10 n).head? ≠ some '0' := by
  induction n using Nat.strongRecOn with
  | _ n ih =>
      rw [Nat.toDigits_eq_if (by decide)]
      split
      · rename_i hlt
        have hdigit : ∀ d < 10, 0 < d → [d.digitChar].head? ≠ some '0' := by decide
        exact hdigit n hlt hn
      · rename_i hle
        rw [List.head?_append_of_ne_nil _ Nat.toDigits_ne_nil]
        exact ih (n / 10) (by omega) (by omega)

theorem digits_toDigits (n : Nat) : Digits (Nat.toDigits 10 n) n :=
  ⟨Nat.toDigits_ne_nil, fun _ hc => Nat.isDigit_of_mem_toDigits (by decide) (by decide) hc,
    Nat.ofDigitChars_ten_toDigits⟩

theorem length_toDigits_of_head? {n : Nat} (h : (Nat.toDigits 10 n).head? = some '0') :
    (Nat.toDigits 10 n).length = 1 := by
  obtain rfl : n = 0 := by
    by_contra hn
    exact head?_toDigits_ne_zero n (by omega) h
  rfl

/-- An integer is written as its numeral. -/
theorem integral_toString : ∀ i : Int, Integral (toString i).toList i
  | .ofNat n => by
      have hs : (toString (Int.ofNat n)).toList = Nat.toDigits 10 n := Nat.toList_repr
      rw [hs]
      exact .bare (digits_toDigits n) length_toDigits_of_head?
  | .negSucc n => by
      have hs : (toString (Int.negSucc n)).toList = '-' :: Nat.toDigits 10 (n + 1) := by
        rw [Int.toString_eq_repr, Int.repr, String.toList_append, Nat.toList_repr]
        rfl
      rw [hs]
      exact .minus (digits_toDigits (n + 1)) length_toDigits_of_head?

theorem integralValue_toString (i : Int) : integralValue (toString i).toList i = .int i := by
  refine if_neg fun hs => ?_
  have h := integral_toString i
  rw [hs] at h
  obtain rfl : i = 0 := by
    cases h with
    | bare h _ => exact absurd (h.2.1 '-' List.mem_cons_self) (by decide)
    | minus h _ =>
        rw [← h.2.2]
        rfl
  exact absurd hs (by decide)

/-! ### Written values -/

theorem endsNumber_nil : EndsNumber [] := nofun

theorem endsNumber_cons (hc : c.isDigit = false ∧ c ≠ '.' ∧ c ≠ 'e' ∧ c ≠ 'E') :
    EndsNumber (c :: rest) := by
  intro d hd
  obtain rfl := Option.some.inj hd
  exact hc

mutual

/-- **A written value is cut into its tokens**, before whatever follows it. -/
theorem lexes_compactText : ∀ {j : Json}, j.Plain → ∀ {rest : List Char} {ts : List Token},
    EndsNumber rest → Lexes rest ts → Lexes (compactText j ++ rest) (j.toTokens ++ ts)
  | .null, _, _, _, _, hr => hr.word (c := 'n') rfl fun _ => rfl
  | .bool true, _, _, _, _, hr => hr.word (c := 't') rfl fun _ => rfl
  | .bool false, _, _, _, _, hr => hr.word (c := 'f') rfl fun _ => rfl
  | .int i, h, _, _, hrest, hr => by
      rw [Plain] at h
      have hi := hr.integral (integral_toString i) hrest h.1 h.2
      rwa [integralValue_toString] at hi
  | .float _, h, _, _, _, _ => by
      rw [Plain] at h
      exact h.elim
  | .str s, _, _, _, _, hr => hr.string s
  | .arr items, h, rest, ts, _, hr => by
      rw [Plain] at h
      have hclose : Lexes (']' :: rest) (.arrClose :: ts) := hr.mark rfl rfl
      have hitems := lexes_compactItems h (endsNumber_cons (by decide)) hclose
      simpa [compactText, toTokens] using hitems.mark (c := '[') rfl rfl
  | .obj members, h, rest, ts, _, hr => by
      rw [Plain] at h
      have hclose : Lexes ('\x7d' :: rest) (.objClose :: ts) := hr.mark rfl rfl
      have hmembers := lexes_compactMembers h (endsNumber_cons (by decide)) hclose
      simpa [compactText, toTokens] using hmembers.mark (c := '\x7b') rfl rfl

theorem lexes_compactItems : ∀ {items : List Json}, PlainItems items →
    ∀ {rest : List Char} {ts : List Token}, EndsNumber rest → Lexes rest ts →
    Lexes (compactItems items ++ rest) (itemTokens items ++ ts)
  | [], _, _, _, _, hr => hr
  | [_], h, _, _, hrest, hr => lexes_compactText h.1 hrest hr
  | j :: k :: r, h, rest, ts, hrest, hr => by
      have hlater := (lexes_compactItems h.2 hrest hr).mark (c := ',') rfl rfl
      simpa [compactItems, itemTokens] using
        lexes_compactText h.1 (endsNumber_cons (by decide)) hlater

theorem lexes_compactMembers : ∀ {members : List (String × Json)}, PlainMembers members →
    ∀ {rest : List Char} {ts : List Token}, EndsNumber rest → Lexes rest ts →
    Lexes (compactMembers members ++ rest) (memberTokens members ++ ts)
  | [], _, _, _, _, hr => hr
  | [(n, j)], h, _, _, hrest, hr => by
      have hvalue := (lexes_compactText h.1 hrest hr).mark (c := ':') rfl rfl
      simpa [compactMembers, memberTokens] using hvalue.string n
  | (n, j) :: m :: r, h, rest, ts, hrest, hr => by
      have hlater := (lexes_compactMembers h.2 hrest hr).mark (c := ',') rfl rfl
      have hvalue := (lexes_compactText h.1 (endsNumber_cons (by decide)) hlater).mark (c := ':') rfl rfl
      simpa [compactMembers, memberTokens] using hvalue.string n

end

end SqlSession.Json
