import SqlSession.Proofs.Url.Host

/-! # URLs that are read back

What a text with a host is read as, under a scheme without rules of its own, is in normal form
(`isNormal_of_ofText`): every part is encoded, the scheme is in lower case, and no segment of the path
is a dot.  A URL in that form is read back from its text as it is (`IsNormal.ofText_render`).  The form
does not depend on who is logged in, so a login can be replaced in it (`IsNormal.with_login`). -/

namespace SqlSession.Url

open Text Host

/-! ### Delimiters -/

theorem of_not_escapedInFragment {c : Char} (h : escapedInFragment c = false) : 0x20 < c.toNat := by
  rw [escapedInFragment, Bool.or_eq_false_iff] at h
  refine lt_toNat_of_not_escaped h.1 ?_
  rintro rfl
  cases h.2

theorem of_not_escapedInQuery {c : Char} (h : escapedInQuery c = false) :
    0x20 < c.toNat ∧ c ≠ '#' := by
  rw [escapedInQuery, Bool.or_eq_false_iff] at h
  refine ⟨lt_toNat_of_not_escaped h.1 ?_, ?_⟩ <;> rintro rfl <;> cases h.2

theorem of_not_escapedInPath {c : Char} (h : escapedInPath c = false) :
    0x20 < c.toNat ∧ c ≠ '?' ∧ c ≠ '#' := by
  rw [escapedInPath, Bool.or_eq_false_iff] at h
  refine ⟨of_not_escapedInFragment h.1, ?_, ?_⟩ <;> rintro rfl <;> cases h.2

theorem of_not_escapedInLogin {c : Char} (h : escapedInLogin c = false) : InAuthority c ∧ c ≠ ':' := by
  rw [escapedInLogin, Bool.or_eq_false_iff] at h
  obtain ⟨habove, hquery, hfragment⟩ := of_not_escapedInPath h.1
  refine ⟨⟨habove, ?_, hquery, hfragment⟩, ?_⟩ <;> rintro rfl <;> cases h.2

/-! ### Logins -/

/-- A login as reading leaves it. -/
structure Login.IsNormal (l : Login) : Prop where
  user : ∀ c ∈ l.user, escapedInLogin c = false
  password : ∀ p ∈ l.password, p ≠ [] ∧ ∀ c ∈ p, escapedInLogin c = false

theorem isNormal_none : Login.none.IsNormal := ⟨nofun, nofun⟩

/-- An encoded user with an encoded password that is not empty. -/
theorem isNormal_encoded (user : List Char) {password : List Char} (h : password ≠ []) :
    Login.IsNormal ⟨percentEncode escapedInLogin user, some (percentEncode escapedInLogin password)⟩ where
  user := fun _ hc => spares_login.not_escaped hc
  password := by
    rintro p ⟨⟩
    exact ⟨fun hnil => h (percentEncode_eq_nil_iff.1 hnil), fun _ hc => spares_login.not_escaped hc⟩

theorem isNormal_readLogin (s : List Char) : (readLogin s).IsNormal := by
  unfold readLogin
  split
  · rename_i user password hcut
    split
    · exact ⟨fun _ hc => spares_login.not_escaped hc, nofun⟩
    · rename_i hne
      exact isNormal_encoded user (by simpa using hne)
  · exact ⟨fun _ hc => spares_login.not_escaped hc, nofun⟩

namespace Login.IsNormal

variable {l : Login}

/-- The text of a normal login is empty, or what is read as the login and an at sign. -/
theorem text_cases (h : l.IsNormal) :
    (l = Login.none ∧ l.text = []) ∨ ∃ before, l.text = before ++ ['@'] ∧ readLogin before = l := by
  obtain ⟨user, password⟩ := l
  have huser : percentEncode escapedInLogin user = user := percentEncode_of_not_escaped h.user
  have hcolon : ':' ∉ user := fun hmem => (of_not_escapedInLogin (h.user _ hmem)).2 rfl
  cases password with
  | none =>
      cases user with
      | nil => exact .inl ⟨rfl, rfl⟩
      | cons c r => exact .inr ⟨c :: r, rfl, by rw [readLogin, cutAt_of_not_mem hcolon, huser]⟩
  | some p =>
      obtain ⟨hne, hp⟩ := h.password p rfl
      refine .inr ⟨user ++ ':' :: p, by cases user <;> rfl, ?_⟩
      rw [readLogin, cutAt_append hcolon]
      simp only [List.isEmpty_eq_false_iff.2 hne, Bool.false_eq_true, ↓reduceIte, huser,
        percentEncode_of_not_escaped hp]

theorem of_mem_text (h : l.IsNormal) {c : Char} (hc : c ∈ l.text) : InAuthority c := by
  obtain ⟨user, password⟩ := l
  cases password with
  | none =>
      have hc : c ∈ user ∨ c = '@' := by
        cases user with
        | nil => cases hc
        | cons d r => simpa [Login.text, or_assoc] using hc
      rcases hc with hc | rfl
      · exact (of_not_escapedInLogin (h.user c hc)).1
      · decide
  | some p =>
      have hc : c ∈ user ∨ c = ':' ∨ c ∈ p ∨ c = '@' := by
        cases user <;> simpa [Login.text, or_assoc] using hc
      rcases hc with hc | rfl | hc | rfl
      · exact (of_not_escapedInLogin (h.user c hc)).1
      · decide
      · exact (of_not_escapedInLogin ((h.password p rfl).2 c hc)).1
      · decide

end Login.IsNormal

/-! ### Schemes -/

/-- A scheme in lower case without rules of its own. -/
structure IsPlainScheme (s : List Char) : Prop where
  head : s.head?.any Char.isAlpha = true
  chars : s.all isSchemeChar = true
  lower : s.map Char.toLower = s
  notWeb : isWeb s = false
  notFile : String.ofList s ≠ "file"

theorem of_isSchemeChar {c : Char} (h : isSchemeChar c = true) :
    (InAuthority c ∧ c ≠ '@') ∧ c ≠ ':' := by
  refine ⟨⟨⟨?_, ?_, ?_, ?_⟩, ?_⟩, ?_⟩
  · have hval : c.toNat = c.val.toNat := rfl
    simp only [isSchemeChar, Char.isAlphanum, Char.isAlpha, Char.isUpper, Char.isLower, Char.isDigit,
      Bool.or_eq_true, decide_eq_true_eq, beq_iff_eq, ge_iff_le, UInt32.le_iff_toNat_le] at h
    rcases h with ((h | rfl) | rfl) | rfl
    · simp at h
      omega
    · decide
    · decide
    · decide
  all_goals
    rintro rfl
    cases h

theorem isSchemeChar_toLower {c : Char} (h : isSchemeChar c = true) : isSchemeChar c.toLower = true := by
  by_cases hup : c.isUpper
  · have halpha : c.toLower.isAlpha = true := by
      rw [Char.isAlpha_toLower_eq_isAlpha, Char.isAlpha, hup]
      rfl
    simp [isSchemeChar, Char.isAlphanum, halpha]
  · rwa [Char.toLower_eq_of_not_isUpper (by simpa using hup)]

/-- A scheme that has been read is a plain one unless it is one of those with rules of their own. -/
theorem isPlainScheme_of_cutScheme? {s scheme rest : List Char} (h : cutScheme? s = some (scheme, rest))
    (hweb : isWeb scheme = false) (hfile : String.ofList scheme ≠ "file") : IsPlainScheme scheme := by
  obtain ⟨⟨raw, after⟩, -, h⟩ := Option.bind_eq_some_iff.1 h
  dsimp only at h
  split at h
  · rename_i hraw
    rw [Bool.and_eq_true] at hraw
    obtain ⟨rfl, rfl⟩ := Prod.mk.inj (Option.some.inj h)
    refine ⟨?_, ?_, ?_, hweb, hfile⟩
    · cases raw with
      | nil => cases hraw.1
      | cons c r => simpa [Char.isAlpha_toLower_eq_isAlpha] using hraw.1
    · rw [List.all_eq_true] at hraw ⊢
      intro c hc
      obtain ⟨d, hd, rfl⟩ := List.mem_map.1 hc
      exact isSchemeChar_toLower (hraw.2 d hd)
    · simp [Function.comp_def, Char.toLower_toLower_eq_toLower]
  · cases h

theorem cutScheme?_append {s : List Char} (hcolon : ':' ∉ s) (rest : List Char) :
    cutScheme? (s ++ ':' :: rest) =
      if s.head?.any Char.isAlpha && s.all isSchemeChar then some (s.map Char.toLower, rest) else none := by
  rw [cutScheme?, cutAt_append hcolon]
  rfl

/-- A plain scheme is read back. -/
theorem IsPlainScheme.cutScheme?_append {s : List Char} (h : IsPlainScheme s) (rest : List Char) :
    cutScheme? (s ++ ':' :: rest) = some (s, rest) := by
  have hcolon : ':' ∉ s := fun hmem => (of_isSchemeChar (List.all_eq_true.1 h.chars _ hmem)).2 rfl
  rw [Url.cutScheme?_append hcolon, h.head, h.chars, h.lower]
  rfl

/-! ### Authorities -/

/-- A port as it stands after the host. -/
def portText (port : Option Nat) : List Char := port.elim [] fun n => ':' :: (toString n).toList

theorem text_server (login : Login) (host : Host) (port : Option Nat) :
    (Authority.server login host port).text =
      '/' :: '/' :: (login.text ++ (host.text ++ portText port)) := by
  simp [Authority.text, portText]

theorem isDigit_of_mem_toString {n : Nat} {c : Char} (h : c ∈ (toString n).toList) : c.isDigit = true := by
  rw [Nat.toString_eq_ofList_toDigits, String.toList_ofList] at h
  exact Nat.isDigit_of_mem_toDigits (by decide) (by decide) h

theorem of_mem_portText {port : Option Nat} {c : Char} (h : c ∈ portText port) :
    InAuthority c ∧ c ≠ '@' := by
  cases port with
  | none => cases h
  | some n =>
      rcases List.mem_cons.1 h with rfl | h
      · decide
      · have hdigit := isDigit_of_mem_toString h
        exact (of_isSchemeChar (by simp [isSchemeChar, Char.isAlphanum, hdigit])).1

theorem exists_of_bind_eq_ok {ε α β : Type} {x : Except ε α} {f : α → Except ε β} {b : β}
    (h : (x >>= f) = .ok b) : ∃ a, x = .ok a ∧ f a = .ok b := by
  cases x with
  | error e => cases h
  | ok a => exact ⟨a, rfl, h⟩

theorem of_mem_authority {login : Login} {host : Host} {port : Option Nat} (hlogin : login.IsNormal)
    (hhost : host.IsNormal) {c : Char} (hc : c ∈ login.text ++ (host.text ++ portText port)) :
    InAuthority c := by
  rcases List.mem_append.1 hc with hc | hc
  · exact hlogin.of_mem_text hc
  · rcases List.mem_append.1 hc with hc | hc
    · exact (hhost.of_mem_text hc).1
    · exact (of_mem_portText hc).1

section Authority

variable {scheme : List Char} {login : Login} {host : Host} {port : Option Nat}

theorem readHost_of_not_web (hweb : isWeb scheme = false) (name : List Char) :
    readHost scheme name = ofOpaque name := by
  rw [readHost, hweb, if_neg Bool.false_ne_true]

/-- The digits of a port are read back, unless they stand for the usual port of the scheme. -/
theorem readPort_toString {n : Nat} (hweb : webPort? scheme = none) (hn : n ≤ 65535) :
    readPort scheme (toString n).toList = .ok (some n, []) := by
  have hdigits : ∀ c ∈ (toString n).toList, c.isDigit = true := fun c => isDigit_of_mem_toString
  have hvalue : Nat.ofDigitChars 10 (toString n).toList 0 = n := by
    rw [Nat.toString_eq_ofList_toDigits, String.toList_ofList, Nat.ofDigitChars_ten_toDigits]
  have hbound : decide (65535 < n) = false := by simpa using hn
  rw [readPort, List.takeWhile_eq_self_iff.2 hdigits, List.dropWhile_eq_nil_iff.2 hdigits, hvalue]
  simp [hbound, hweb]

theorem le_of_readPort {s rest : List Char} (h : readPort scheme s = .ok (port, rest)) :
    ∀ n ∈ port, n ≤ 65535 := by
  unfold readPort at h
  dsimp only at h
  split at h
  · cases h
  · rename_i hbound
    split at h
    · cases h
    · obtain ⟨rfl, -⟩ := Prod.mk.inj (Except.ok.inj h)
      intro n hn
      split at hn
      · cases hn
      · rename_i hgiven
        obtain rfl := Option.some.inj hn
        simp only [Bool.or_eq_true, Bool.not_eq_true, not_or] at hgiven
        simpa [hgiven.1] using hbound

/-- A normal host with its port is read back. -/
theorem readServer_text (login : Login) (hweb : isWeb scheme = false) (hhost : host.IsNormal)
    (hport : ∀ n ∈ port, n ≤ 65535) :
    readServer scheme login (host.text ++ portText port) = .ok (.server login host port, []) := by
  have hwebPort : webPort? scheme = none := by simpa [isWeb] using hweb
  have hstart : cutHost false (portText port) = ([], portText port) := by
    cases port <;> rfl
  have hcut : cutHost false (host.text ++ portText port) = (host.text, portText port) :=
    hhost.cutHost_text hstart
  have hname : host.text.isEmpty = false := List.isEmpty_eq_false_iff.2 hhost.text_ne_nil
  simp only [readServer, hcut, hname, Bool.false_eq_true, ↓reduceIte, readHost_of_not_web hweb,
    hhost.ofOpaque_text]
  cases port with
  | none => rfl
  | some n =>
      have hn := readPort_toString hwebPort (hport n rfl)
      simp only [portText, Option.elim_some, hn]
      rfl

theorem readAuthority_text (hweb : isWeb scheme = false) (more : Bool) (hlogin : login.IsNormal)
    (hhost : host.IsNormal) (hport : ∀ n ∈ port, n ≤ 65535) :
    readAuthority scheme more (login.text ++ (host.text ++ portText port)) =
      .ok (.server login host port, []) := by
  have hmark : '@' ∉ host.text ++ portText port := by
    intro hmem
    rcases List.mem_append.1 hmem with hmem | hmem
    · exact (hhost.of_mem_text hmem).2 rfl
    · exact (of_mem_portText hmem).2 rfl
  have hserver := readServer_text login hweb hhost hport
  rcases hlogin.text_cases with ⟨rfl, htext⟩ | ⟨before, htext, hlogin⟩
  · rw [htext, List.nil_append, readAuthority, cutAtLast_of_not_mem hmark]
    exact hserver
  · have hne : (host.text ++ portText port).isEmpty = false :=
      List.isEmpty_eq_false_iff.2 (List.append_ne_nil_of_left_ne_nil hhost.text_ne_nil _)
    rw [htext, List.append_assoc, List.singleton_append, readAuthority, cutAtLast_append _ hmark]
    simp only [hne, hlogin, Bool.and_false, Bool.false_and, Bool.false_eq_true, ↓reduceIte]
    exact hserver

/-- The login of a server is the one before its host, and the host and the port are normal. -/
theorem isNormal_of_readServer {l : Login} {s left : List Char} (hweb : isWeb scheme = false)
    (h : readServer scheme l s = .ok (.server login host port, left)) :
    login = l ∧ host.IsNormal ∧ ∀ n ∈ port, n ≤ 65535 := by
  unfold readServer at h
  simp only [readHost_of_not_web hweb] at h
  split at h
  · split at h <;> cases h
  · rename_i hname
    have hname : (cutHost false s).1 ≠ [] := by simpa using hname
    obtain ⟨found, hread, h⟩ := exists_of_bind_eq_ok h
    have hfound := isNormal_of_ofOpaque hname hread
    split at h
    · obtain ⟨⟨given, left⟩, hport, h⟩ := exists_of_bind_eq_ok h
      cases h
      exact ⟨rfl, hfound, le_of_readPort hport⟩
    · cases h
      exact ⟨rfl, hfound, nofun⟩

/-- What is read as a login, a host and a port is normal. -/
theorem isNormal_of_readAuthority {more : Bool} {s left : List Char} (hweb : isWeb scheme = false)
    (h : readAuthority scheme more s = .ok (.server login host port, left)) :
    login.IsNormal ∧ host.IsNormal ∧ ∀ n ∈ port, n ≤ 65535 := by
  unfold readAuthority at h
  split at h
  · split at h
    · cases h
    · obtain ⟨rfl, hserver⟩ := isNormal_of_readServer hweb h
      exact ⟨isNormal_readLogin _, hserver⟩
  · obtain ⟨rfl, hserver⟩ := isNormal_of_readServer hweb h
    exact ⟨isNormal_none, hserver⟩

end Authority

/-! ### Paths -/

/-- A segment of a path as reading leaves it. -/
structure IsSegment (s : List Char) : Prop where
  chars : ∀ c ∈ s, escapedInPath c = false
  noSlash : '/' ∉ s
  notSingleDot : isSingleDot s = false
  notDoubleDot : isDoubleDot s = false

theorem isSegment_nil : IsSegment [] := ⟨nofun, List.not_mem_nil, rfl, rfl⟩

/-- What is left of a path without dot segments is what it had. -/
theorem resolve_of_isSegment {l : List (List Char)} : ∀ {done : List (List Char)},
    (∀ s ∈ l, IsSegment s) → resolve done l = done.reverse ++ l := by
  induction l with
  | nil => exact fun _ => (List.append_nil _).symm
  | cons s r ih =>
      intro done h
      have hs := h s List.mem_cons_self
      rw [resolve]
      simp only [hs.notDoubleDot, hs.notSingleDot, Bool.or_self, Bool.and_false, Bool.false_eq_true,
        ↓reduceIte]
      rw [ih fun t ht => h t (List.mem_cons_of_mem _ ht), List.reverse_cons, List.append_assoc]
      rfl

/-- The path keeps segments that are no dots, and may get an empty one at its end. -/
theorem mem_resolve {l : List (List Char)} {t : List Char} : ∀ {done : List (List Char)},
    t ∈ resolve done l →
      t ∈ done ∨ t = [] ∨ (t ∈ l ∧ isSingleDot t = false ∧ isDoubleDot t = false) := by
  induction l with
  | nil => exact fun h => .inl (List.mem_reverse.1 h)
  | cons s r ih =>
      intro done h
      have hascend : ∀ u ∈ ascend done, u ∈ done := by
        intro u hu
        unfold ascend at hu
        split at hu
        · exact hu
        · exact List.mem_of_mem_tail hu
      have hafter : ∀ u ∈ (if isDoubleDot s then ascend done
          else if isSingleDot s then done else s :: done),
          u ∈ done ∨ (u ∈ s :: r ∧ isSingleDot u = false ∧ isDoubleDot u = false) := by
        intro u hu
        split at hu
        · exact .inl (hascend u hu)
        · rename_i hdouble
          split at hu
          · exact .inl hu
          · rename_i hsingle
            rcases List.mem_cons.1 hu with rfl | hu
            · exact .inr ⟨List.mem_cons_self, by simpa using hsingle, by simpa using hdouble⟩
            · exact .inl hu
      rw [resolve] at h
      split at h
      · rcases List.mem_cons.1 (List.mem_reverse.1 h) with rfl | h
        · exact .inr (.inl rfl)
        · exact (hafter t h).imp_right .inr
      · rcases ih h with h | rfl | ⟨hmem, hdots⟩
        · exact (hafter t h).imp_right .inr
        · exact .inr (.inl rfl)
        · exact .inr (.inr ⟨List.mem_cons_of_mem _ hmem, hdots⟩)

theorem isSegment_of_mem_readSegments {s t : List Char} (h : t ∈ readSegments false s) : IsSegment t := by
  rcases mem_resolve h with h | rfl | ⟨h, hsingle, hdouble⟩
  · cases h
  · exact isSegment_nil
  · obtain ⟨p, hp, rfl⟩ := List.mem_map.1 h
    refine ⟨fun c hc => spares_path.not_escaped hc, fun hmem => ?_, hsingle, hdouble⟩
    rcases mem_percentEncode hmem with ⟨hslash, -⟩ | hslash | ⟨n, hslash⟩
    · exact not_mem_of_mem_pieces hp hslash
    · cases hslash
    · cases hslash

theorem exists_readPath (s : List Char) : ∃ l, readPath false s = .segments l ∧ ∀ t ∈ l, IsSegment t := by
  cases s with
  | nil => exact ⟨[], rfl, nofun⟩
  | cons c r => exact ⟨_, rfl, fun t ht => isSegment_of_mem_readSegments ht⟩

theorem readPath_segments {l : List (List Char)} (h : ∀ s ∈ l, IsSegment s) :
    readPath false (l.flatMap ('/' :: ·)) = .segments l := by
  cases l with
  | nil => rfl
  | cons s r =>
      have hpieces : pieces '/' (s ++ r.flatMap ('/' :: ·)) = s :: r :=
        pieces_flatMap (h s List.mem_cons_self).noSlash
          fun t ht => (h t (List.mem_cons_of_mem _ ht)).noSlash
      have hencode : (s :: r).map (percentEncode escapedInPath) = s :: r :=
        (List.map_congr_left fun t ht => percentEncode_of_not_escaped (h t ht).chars).trans (List.map_id' _)
      have hread : readSegments false ('/' :: (s ++ r.flatMap ('/' :: ·))) = s :: r := by
        simp only [readSegments, Bool.false_eq_true, ↓reduceIte, List.drop_succ_cons, List.drop_zero,
          hpieces, hencode]
        exact resolve_of_isSegment h
      exact congrArg Path.segments hread

/-! ### The whole -/

/-- A URL with a host as reading leaves it, under a scheme without rules of its own. -/
structure IsNormal (u : Url) : Prop where
  scheme : IsPlainScheme u.scheme
  authority : ∃ login host port, u.authority = .server login host port ∧ login.IsNormal ∧
    host.IsNormal ∧ ∀ n ∈ port, n ≤ 65535
  path : ∃ l, u.path = .segments l ∧ ∀ s ∈ l, IsSegment s
  query : ∀ q ∈ u.query, ∀ c ∈ q, escapedInQuery c = false
  fragment : ∀ f ∈ u.fragment, ∀ c ∈ f, escapedInFragment c = false

theorem cutOff_append {c : Char} {s : List Char} (h : c ∉ s) (t : List Char) :
    cutOff c (s ++ t) = (s ++ (cutOff c t).1, (cutOff c t).2) := by
  cases hcut : cutAt c t with
  | none =>
      have hboth : c ∉ s ++ t := by
        rw [List.mem_append, not_or]
        exact ⟨h, not_mem_of_cutAt hcut⟩
      simp only [cutOff, hcut, cutAt_of_not_mem hboth]
  | some parts =>
      obtain ⟨before, after⟩ := parts
      obtain ⟨hmem, rfl⟩ := eq_of_cutAt hcut
      have hboth : c ∉ s ++ before := by
        rw [List.mem_append, not_or]
        exact ⟨h, hmem⟩
      rw [← List.append_assoc, cutOff, cutOff, hcut, cutAt_append hboth]

theorem cutOff_elim {c : Char} {s : List Char} (h : c ∉ s) (after : Option (List Char)) :
    cutOff c (s ++ after.elim [] (c :: ·)) = (s, after) := by
  rw [cutOff_append h]
  cases after with
  | none => simp [cutOff, cutAt]
  | some t => simp [cutOff, cutAt]

theorem isOuter_eq_false_iff {c : Char} : isOuter c = false ↔ 0x20 < c.toNat := by
  simp [isOuter]

theorem dropWhile_isOuter {s : List Char} (h : ∀ c ∈ s.head?, 0x20 < c.toNat) :
    s.dropWhile isOuter = s := by
  cases s with
  | nil => rfl
  | cons c r =>
      refine List.dropWhile_cons_of_neg ?_
      rw [isOuter_eq_false_iff.2 (h c rfl)]
      exact Bool.false_ne_true

theorem unbroken_of_forall {s : List Char} (h : ∀ c ∈ s, 0x20 < c.toNat) : unbroken s = s := by
  rw [unbroken, List.filter_eq_self]
  intro c hc
  have habove := h c hc
  rw [decide_eq_true_eq]
  refine ⟨?_, ?_, ?_⟩ <;> rintro rfl <;> revert habove <;> decide

/-- There is nothing to clean where every character is above the space. -/
theorem clean_of_forall {s : List Char} (h : ∀ c ∈ s, 0x20 < c.toNat) : clean s = s := by
  have hstart : s.dropWhile isOuter = s :=
    dropWhile_isOuter fun c hc => h c (List.mem_of_mem_head? hc)
  have hend : s.reverse.dropWhile isOuter = s.reverse :=
    dropWhile_isOuter fun c hc => h c (List.mem_reverse.1 (List.mem_of_mem_head? hc))
  rw [clean, hstart, trimOuterEnd, hend, List.reverse_reverse, unbroken_of_forall h]

theorem dropWhile_isOuter_append_cons {c : Char} (hc : 0x20 < c.toNat) (a b : List Char) :
    (a ++ c :: b).dropWhile isOuter = a.dropWhile isOuter ++ c :: b := by
  rw [List.dropWhile_append, dropWhile_isOuter (s := c :: b) (by rintro d ⟨⟩; exact hc)]
  split
  · rename_i ha
    rw [List.isEmpty_iff.1 ha, List.nil_append]
  · rfl

theorem trimOuterEnd_append_cons {c : Char} (hc : 0x20 < c.toNat) (a b : List Char) :
    trimOuterEnd (a ++ c :: b) = a ++ c :: trimOuterEnd b := by
  have hrev : (a ++ c :: b).reverse = b.reverse ++ c :: a.reverse := by simp
  rw [trimOuterEnd, hrev, dropWhile_isOuter_append_cons hc, trimOuterEnd]
  simp

theorem unbroken_append (a b : List Char) : unbroken (a ++ b) = unbroken a ++ unbroken b :=
  List.filter_append a b

theorem unbroken_cons {c : Char} (hc : 0x20 < c.toNat) (s : List Char) :
    unbroken (c :: s) = c :: unbroken s := by
  have hone : unbroken [c] = [c] := unbroken_of_forall fun d hd => by
    rw [List.mem_singleton.1 hd]
    exact hc
  rw [← List.singleton_append, unbroken_append, hone]
  rfl

/-- Cleaning keeps every character above the space, and cleans what stands on its two sides. -/
theorem clean_append_cons {c : Char} (hc : 0x20 < c.toNat) (a b : List Char) :
    clean (a ++ c :: b) = unbroken (a.dropWhile isOuter) ++ c :: unbroken (trimOuterEnd b) := by
  rw [clean, dropWhile_isOuter_append_cons hc, trimOuterEnd_append_cons hc, unbroken_append,
    unbroken_cons hc]

/-- An authority and a path are read back. -/
theorem readHierarchy_text {scheme : List Char} {login : Login} {host : Host} {port : Option Nat}
    {l : List (List Char)} (hweb : isWeb scheme = false) (more : Bool) (hlogin : login.IsNormal)
    (hhost : host.IsNormal) (hport : ∀ n ∈ port, n ≤ 65535) (hl : ∀ s ∈ l, IsSegment s) :
    readHierarchy scheme more ((Authority.server login host port).text ++ (Path.segments l).text) =
      .ok (.server login host port, .segments l) := by
  have hslash : ∀ c ∈ login.text ++ (host.text ++ portText port), (!isSlash false c) = true := by
    intro c hc
    have hne : c ≠ '/' := (of_mem_authority hlogin hhost hc).2.1
    simpa [isSlash] using hne
  have htake : (Path.segments l).text.takeWhile (!isSlash false ·) = [] := by
    cases l <;> rfl
  have hdrop : (Path.segments l).text.dropWhile (!isSlash false ·) = (Path.segments l).text := by
    cases l <;> rfl
  have hstart : afterSlashes false ('/' :: '/' :: (login.text ++ (host.text ++ portText port)) ++
      (Path.segments l).text) = some (login.text ++ (host.text ++ portText port) ++ (Path.segments l).text) :=
    afterPrefix_append ['/', '/'] _
  have hpath : readPath false ([] ++ (Path.segments l).text) = .segments l := readPath_segments hl
  rw [text_server, readHierarchy]
  simp only [hweb, hstart, List.takeWhile_append_of_pos hslash, List.dropWhile_append_of_pos hslash,
    htake, hdrop, List.append_nil, readAuthority_text hweb _ hlogin hhost hport]
  exact congrArg (fun p => Except.ok (Authority.server login host port, p)) hpath

/-! #### Characters of the parts -/

theorem of_mem_segments {l : List (List Char)} (h : ∀ s ∈ l, IsSegment s) {c : Char}
    (hc : c ∈ (Path.segments l).text) : 0x20 < c.toNat ∧ c ≠ '?' ∧ c ≠ '#' := by
  obtain ⟨s, hs, hc⟩ := List.mem_flatMap.1 hc
  rcases List.mem_cons.1 hc with rfl | hc
  · decide
  · exact of_not_escapedInPath ((h s hs).chars c hc)

namespace IsNormal

variable {u : Url}

/-- Before the query there are neither spaces, controls, question marks nor number signs. -/
theorem of_mem_hierarchy (h : u.IsNormal) {c : Char} (hc : c ∈ u.authority.text ++ u.path.text) :
    0x20 < c.toNat ∧ c ≠ '?' ∧ c ≠ '#' := by
  obtain ⟨login, host, port, hauthority, hlogin, hhost, -⟩ := h.authority
  obtain ⟨l, hpath, hl⟩ := h.path
  rw [hauthority, hpath, text_server] at hc
  rcases List.mem_append.1 hc with hc | hc
  · rcases List.mem_cons.1 hc with rfl | hc
    · decide
    · rcases List.mem_cons.1 hc with rfl | hc
      · decide
      · obtain ⟨habove, -, hquery, hfragment⟩ := of_mem_authority hlogin hhost hc
        exact ⟨habove, hquery, hfragment⟩
  · exact of_mem_segments hl hc

theorem of_mem_query (h : u.IsNormal) {c : Char} (hc : c ∈ u.query.elim [] ('?' :: ·)) :
    0x20 < c.toNat ∧ c ≠ '#' := by
  cases hquery : u.query with
  | none =>
      rw [hquery] at hc
      cases hc
  | some q =>
      rw [hquery] at hc
      rcases List.mem_cons.1 hc with rfl | hc
      · decide
      · exact of_not_escapedInQuery (h.query q hquery c hc)

theorem of_mem_fragment (h : u.IsNormal) {c : Char} (hc : c ∈ u.fragment.elim [] ('#' :: ·)) :
    0x20 < c.toNat := by
  cases hfragment : u.fragment with
  | none =>
      rw [hfragment] at hc
      cases hc
  | some f =>
      rw [hfragment] at hc
      rcases List.mem_cons.1 hc with rfl | hc
      · decide
      · exact of_not_escapedInFragment (h.fragment f hfragment c hc)

theorem text_eq (h : u.IsNormal) :
    u.text = u.scheme ++ ':' :: (u.authority.text ++ u.path.text ++ u.query.elim [] ('?' :: ·) ++
      u.fragment.elim [] ('#' :: ·)) := by
  obtain ⟨login, host, port, hauthority, -⟩ := h.authority
  simp [text, hauthority]

theorem clean_text (h : u.IsNormal) : clean u.text = u.text := by
  refine clean_of_forall fun c hc => ?_
  rw [h.text_eq, List.mem_append, List.mem_cons, List.mem_append, List.mem_append] at hc
  rcases hc with hc | rfl | (hc | hc) | hc
  · exact (of_isSchemeChar (List.all_eq_true.1 h.scheme.chars c hc)).1.1.1
  · decide
  · exact (h.of_mem_hierarchy hc).1
  · exact (h.of_mem_query hc).1
  · exact h.of_mem_fragment hc

/-- A URL in normal form is read back from its text. -/
theorem ofText_render (h : u.IsNormal) : ofText u.render = .ok u := by
  have hnoFragment : '#' ∉ u.authority.text ++ u.path.text ++ u.query.elim [] ('?' :: ·) := by
    intro hmem
    rcases List.mem_append.1 hmem with hmem | hmem
    · exact (h.of_mem_hierarchy hmem).2.2 rfl
    · exact (h.of_mem_query hmem).2 rfl
  have hnoQuery : '?' ∉ u.authority.text ++ u.path.text := fun hmem => (h.of_mem_hierarchy hmem).2.1 rfl
  have hencoded : ∀ {escaped : Char → Bool} {part : Option (List Char)},
      (∀ s ∈ part, ∀ c ∈ s, escaped c = false) → part.map (percentEncode escaped) = part := by
    intro escaped part hpart
    cases part with
    | none => rfl
    | some s => exact congrArg some (percentEncode_of_not_escaped (hpart s rfl))
  obtain ⟨login, host, port, hauthority, hlogin, hhost, hport⟩ := h.authority
  obtain ⟨l, hpath, hl⟩ := h.path
  have hhierarchy : ∀ more, readHierarchy u.scheme more (u.authority.text ++ u.path.text) =
      .ok (u.authority, u.path) := by
    intro more
    rw [hauthority, hpath]
    exact readHierarchy_text h.scheme.notWeb more hlogin hhost hport hl
  rw [render, ofText, String.toList_ofList, h.clean_text, h.text_eq, h.scheme.cutScheme?_append]
  simp only [h.scheme.notFile, ↓reduceIte, cutOff_elim hnoFragment, cutOff_elim hnoQuery, hhierarchy,
    h.scheme.notWeb, Bool.false_eq_true, hencoded h.query, hencoded h.fragment]
  rfl

theorem with_login {login l : Login} {host : Host} {port : Option Nat} (h : u.IsNormal)
    (hu : u.authority = .server login host port) (hl : l.IsNormal) :
    IsNormal { u with authority := .server l host port } := by
  obtain ⟨login', host', port', hu', -, hhost, hport⟩ := h.authority
  rw [hu] at hu'
  cases hu'
  exact { h with authority := ⟨l, host, port, rfl, hl, hhost, hport⟩ }

end IsNormal

/-! #### What is read -/

theorem isNormal_of_readHierarchy {scheme s : List Char} {more : Bool} {login : Login} {host : Host}
    {port : Option Nat} {path : Path} (hweb : isWeb scheme = false)
    (h : readHierarchy scheme more s = .ok (.server login host port, path)) :
    (login.IsNormal ∧ host.IsNormal ∧ ∀ n ∈ port, n ≤ 65535) ∧
      ∃ l, path = .segments l ∧ ∀ t ∈ l, IsSegment t := by
  unfold readHierarchy at h
  simp only [hweb] at h
  split at h
  · rename_i r hr
    obtain ⟨⟨authority, left⟩, hauthority, h⟩ := exists_of_bind_eq_ok h
    cases h
    exact ⟨isNormal_of_readAuthority hweb hauthority, exists_readPath _⟩
  · split at h <;> cases h

/-- What a text with a host is read as is in normal form. -/
theorem isNormal_of_ofText {s : String} {u : Url} (h : ofText s = .ok u) (hweb : isWeb u.scheme = false)
    (hhost : u.host?.isSome) : u.IsNormal := by
  unfold ofText at h
  split at h
  · cases h
  · rename_i scheme rest hscheme
    split at h
    · cases h
      cases hhost
    · rename_i hfile
      obtain ⟨⟨authority, path⟩, hhierarchy, h⟩ := exists_of_bind_eq_ok h
      cases h
      cases authority with
      | absent => cases hhost
      | hostless => cases hhost
      | server login host port =>
          obtain ⟨⟨hlogin, hnormal, hport⟩, hpath⟩ := isNormal_of_readHierarchy hweb hhierarchy
          refine ⟨isPlainScheme_of_cutScheme? hscheme hweb hfile,
            ⟨login, host, port, rfl, hlogin, hnormal, hport⟩, hpath, ?_, ?_⟩
          · intro q hq c hc
            obtain ⟨q, -, rfl⟩ := Option.map_eq_some_iff.1 hq
            rw [show isWeb scheme = false from hweb] at hc
            exact spares_query.not_escaped hc
          · intro f hf c hc
            obtain ⟨f, -, rfl⟩ := Option.map_eq_some_iff.1 hf
            exact spares_fragment.not_escaped hc

end SqlSession.Url
