import SqlSession.Config.Credentials
import SqlSession.Proofs.Url.Reading

/-! # Credentials of a configuration in its URL

The URL that a configuration with a user and a password connects with is read as the URL that was
configured with nothing but its login replaced, and that login stands for what the configured user and
password stand for as parts of a URL (`connectionUrl_credentials`).  A percent sign in them is not
escaped: where two hexadecimal digits follow one, the driver is given another text than the configured
one, and it is given that text everywhere else. -/

namespace SqlSession

open Url

/-! ### The scheme -/

theorem lt_toNat_of_toLower {c : Char} (h : 0x20 < c.toLower.toNat) : 0x20 < c.toNat := by
  by_cases hup : c.isUpper
  · exact (of_isSchemeChar (by simp [isSchemeChar, Char.isAlphanum, Char.isAlpha, hup])).1.1.1
  · rwa [Char.toLower_eq_of_not_isUpper (by simpa using hup)] at h

/-- The names of the schemes that the driven systems have. -/
def schemeNames : List String := ["postgres", "postgresql", "mysql", "mariadb", "sqlite"]

theorem exists_of_backend {s : String} {b : Backend} (h : Backend.ofConnectionString? s = some b) :
    ∃ scheme rest, s.toList = scheme ++ ':' :: rest ∧ ':' ∉ scheme ∧
      String.ofList (scheme.map Char.toLower) ∈ schemeNames := by
  obtain ⟨⟨scheme, rest⟩, hcut, h⟩ := Option.bind_eq_some_iff.1 h
  obtain ⟨hcolon, hs⟩ := Text.eq_of_cutAt hcut
  refine ⟨scheme, rest, hs, hcolon, ?_⟩
  simp only [Text.lowerAscii, String.toList_ofList] at h
  unfold schemeNames
  split at h
  · rename_i hname
    rcases hname with hname | hname <;> rw [hname] <;> decide
  · split at h
    · rename_i hname
      rcases hname with hname | hname <;> rw [hname] <;> decide
    · split at h
      · rename_i hname
        rw [hname]
        decide
      · cases h

theorem lt_toNat_of_mem_schemeNames {scheme : List Char}
    (h : String.ofList (scheme.map Char.toLower) ∈ schemeNames) : ∀ c ∈ scheme, 0x20 < c.toNat := by
  have hnames : ∀ name ∈ schemeNames, ∀ c ∈ name.toList, 0x20 < c.toNat := by
    simp [schemeNames]
  intro c hc
  have hlower := hnames _ h c.toLower (by
    rw [String.toList_ofList]
    exact List.mem_map_of_mem hc)
  exact lt_toNat_of_toLower hlower

theorem isWeb_of_mem_schemeNames {scheme : List Char} (h : String.ofList scheme ∈ schemeNames) :
    isWeb scheme = false := by
  unfold schemeNames at h
  simp only [List.mem_cons, List.not_mem_nil, or_false] at h
  rcases h with h | h | h | h | h <;> simp [isWeb, webPort?, h]

theorem scheme_mem_schemeNames {s : String} {b : Backend} {u : Url}
    (hb : Backend.ofConnectionString? s = some b) (hu : Url.ofText s = .ok u) :
    String.ofList u.scheme ∈ schemeNames := by
  obtain ⟨scheme, rest, hs, hcolon, hname⟩ := exists_of_backend hb
  have habove := lt_toNat_of_mem_schemeNames hname
  have hclean : clean s.toList = scheme ++ ':' :: unbroken (trimOuterEnd rest) := by
    rw [hs, clean_append_cons (by decide), dropWhile_isOuter fun c hc => habove c (List.mem_of_mem_head? hc),
      unbroken_of_forall habove]
  unfold ofText at hu
  rw [hclean, cutScheme?_append hcolon] at hu
  split at hu
  · cases hu
  · rename_i scheme' rest' hcut
    have hscheme : scheme' = scheme.map Char.toLower := by
      split at hcut
      · exact (Prod.mk.inj (Option.some.inj hcut)).1.symm
      · cases hcut
    have hkept : u.scheme = scheme' := by
      split at hu
      · cases hu
        rfl
      · obtain ⟨_, _, hu⟩ := exists_of_bind_eq_ok hu
        cases hu
        rfl
    rwa [hkept, hscheme]

/-! ### The login -/

namespace Config

variable {c : Config} {u : Url}

/-- The login that a configured user and password make. -/
def loginOf (user password : String) : Login :=
  ⟨percentEncode escapedInLogin user.toList, some (percentEncode escapedInLogin password.toList)⟩

theorem isNormal_loginOf (user : String) {password : String} (hpassword : password ≠ "") :
    (loginOf user password).IsNormal :=
  isNormal_encoded user.toList fun h => hpassword (String.toList_eq_nil_iff.1 h)

variable {user password : String}

/-- A URL with a host gets the configured login. -/
theorem connectionUrl_of_parsed {login : Login} {host : Url.Host} {port : Option Nat}
    (hbackend : c.backend?.any Backend.usesCredentials = true) (hurl : Url.ofText c.databaseUrl = .ok u)
    (hserver : u.authority = .server login host port) (huser : c.user = some user)
    (hpassword : c.password = some password) (hnonempty : password ≠ "") :
    c.connectionUrl =
      .ok (Url.render { u with authority := .server (loginOf user password) host port }) := by
  have hoverrides : c.overridesLogin = true := by simp [overridesLogin, hbackend, huser]
  have hfull : password.isEmpty = false := by simpa using hnonempty
  simp only [connectionUrl, hoverrides, ↓reduceIte, hurl, applyUser, huser, Url.withUser?, Url.mapLogin?,
    hserver]
  simp only [Option.map_some, Option.getD_some, bind, Except.bind, applyPassword, hpassword,
    Url.withPassword?, Url.mapLogin?, hfull, Bool.false_eq_true, ↓reduceIte]
  rfl

/-- A configured user and a configured password are put into the URL in place of its login, nothing
else of the URL changes, and the driver reads them from there exactly if there is no escape in them. -/
theorem connectionUrl_credentials
    (hbackend : c.backend? = some .mysql ∨ c.backend? = some .postgres)
    (hurl : Url.ofText c.databaseUrl = .ok u) (hhost : u.host?.isSome)
    (huser : c.user = some user) (hpassword : c.password = some password)
    (hnamed : user ≠ "") (hsecret : password ≠ "") :
    ∃ s v userPart passwordPart, c.connectionUrl = .ok s ∧ Url.ofText s = .ok v ∧
      u.mapLogin? (fun _ => ⟨userPart, some passwordPart⟩) = some v ∧
      v.user = userPart ∧ userPart ≠ [] ∧ v.password? = some passwordPart ∧
      percentDecode userPart = percentDecode user.toList ∧
      percentDecode passwordPart = percentDecode password.toList ∧
      (percentDecode userPart = .ok user ↔ ¬ HasEscape user.toList) ∧
      (percentDecode passwordPart = .ok password ↔ ¬ HasEscape password.toList) := by
  obtain ⟨b, hb, huses⟩ : ∃ b, c.backend? = some b ∧ b.usesCredentials = true := by
    rcases hbackend with h | h
    · exact ⟨_, h, rfl⟩
    · exact ⟨_, h, rfl⟩
  have hnormal : u.IsNormal :=
    isNormal_of_ofText hurl (isWeb_of_mem_schemeNames (scheme_mem_schemeNames hb hurl)) hhost
  obtain ⟨login, host, port, hserver, -⟩ := hnormal.authority
  have hlogin := hnormal.with_login hserver (isNormal_loginOf user hsecret)
  have hdecode : ∀ s : String,
      percentDecode (percentEncode escapedInLogin s.toList) = percentDecode s.toList := fun s =>
    congrArg Text.ofUtf8 (percentOctets_percentEncode spares_login s.toList)
  refine ⟨_, _, percentEncode escapedInLogin user.toList, percentEncode escapedInLogin password.toList,
    connectionUrl_of_parsed (by simp [hb, huses]) hurl hserver huser hpassword hsecret,
    hlogin.ofText_render, ?_, rfl, ?_, rfl, hdecode user, hdecode password,
    percentDecode_percentEncode_eq_ok_iff spares_login, percentDecode_percentEncode_eq_ok_iff spares_login⟩
  · rw [Url.mapLogin?, hserver]
    rfl
  · exact fun h => hnamed (String.toList_eq_nil_iff.1 (percentEncode_eq_nil_iff.1 h))

/-- A percent sign that begins no escape is read back with the characters that do not belong in a
login. -/
theorem connectionUrl_credentials_special :
    ∃ s v, connectionUrl { ofUrl "mysql://root@db.internal:3306/orders" with
        user := some "app", password := some "s3c/ret@100%" } = .ok s ∧
      Url.ofText s = .ok v ∧ percentDecode v.user = .ok "app" ∧
      v.password?.map percentDecode = some (.ok "s3c/ret@100%") := by
  have hurl : Url.ofText "mysql://root@db.internal:3306/orders" = .ok ⟨"mysql".toList,
      .server ⟨"root".toList, none⟩ (.named "db.internal".toList) (some 3306),
      .segments ["orders".toList], none, none⟩ := rfl
  obtain ⟨s, v, userPart, passwordPart, hs, hv, -, huser, -, hpassword, -, -, hread, hreadPassword⟩ :=
    connectionUrl_credentials (c := { ofUrl "mysql://root@db.internal:3306/orders" with
      user := some "app", password := some "s3c/ret@100%" }) (.inl rfl) hurl rfl rfl rfl
      (by decide) (by decide)
  refine ⟨s, v, hs, hv, ?_, ?_⟩
  · rw [huser]
    exact hread.2 (percentOctets_eq_iff.1 rfl)
  · rw [hpassword]
    exact congrArg some (hreadPassword.2 (percentOctets_eq_iff.1 rfl))

/-- An escape in a password is not escaped in turn: the driver is given another password. -/
theorem connectionUrl_escapedPassword :
    let c := { ofUrl "mysql://h/db" with user := some "app", password := some "p%41ss" }
    c.backend? = some .mysql ∧ (Url.ofText c.databaseUrl).map (fun u => u.host?.isSome) = .ok true ∧
      c.connectionUrl = .ok "mysql://app:p%41ss@h/db" ∧
      (Url.ofText "mysql://app:p%41ss@h/db").map (fun v => v.password?.map percentDecode) =
        .ok (some (.ok "pAss")) :=
  ⟨rfl, rfl, rfl, rfl⟩

end Config

end SqlSession
