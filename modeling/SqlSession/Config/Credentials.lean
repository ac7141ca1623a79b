import SqlSession.Config.Basic
import SqlSession.Url.Parser

/-! # Credentials of a configuration

The URL that a configuration connects with carries its user and its password; the URL that it shows has
stars in place of the password.
-/

namespace SqlSession

/-- Why a configuration has no URL to connect with. -/
inductive CredentialFault where
  | badUrl (fault : Url.Fault)
  | noPlaceForUser
  | noPlaceForPassword
deriving DecidableEq, Repr

namespace CredentialFault

/-- The wording of a fault. -/
def message : CredentialFault → String
  | badUrl f => s!"Invalid URL: {f.message}"
  | noPlaceForUser => "URL cannot carry a user name"
  | noPlaceForPassword => "URL cannot carry a password"

end CredentialFault

namespace Config

/-- A URL with the user of a configuration, if that has one. -/
def applyUser (c : Config) (u : Url) : Except CredentialFault Url :=
  match c.user with
  | none => .ok u
  | some user => ((u.withUser? user).map Except.ok).getD (.error .noPlaceForUser)

/-- A URL with the password of a configuration, if that has one. -/
def applyPassword (c : Config) (u : Url) : Except CredentialFault Url :=
  match c.password with
  | none => .ok u
  | some password => ((u.withPassword? password).map Except.ok).getD (.error .noPlaceForPassword)

/-- Whether the URL to connect with takes a login from the configuration. -/
def overridesLogin (c : Config) : Bool :=
  c.backend?.any Backend.usesCredentials && (c.user.isSome || c.password.isSome)

/-- The URL to connect with, its login replaced by the user and the password of the configuration.
Without those it is taken as it is written. -/
def connectionUrl (c : Config) : Except CredentialFault String :=
  if c.overridesLogin then
    match Url.ofText c.databaseUrl with
    | .error f => .error (.badUrl f)
    | .ok u => do
      let withUser ← c.applyUser u
      let withBoth ← c.applyPassword withUser
      return withBoth.render
  else .ok c.databaseUrl

/-- What is shown in place of a password. -/
def mask : String := "****"

/-- A URL with its password masked.  A text that is no URL, or one without a password, is shown as it
is. -/
def masked (url : String) : String :=
  match Url.ofText url with
  | .error _ => url
  | .ok u =>
    match u.password? with
    | none => url
    | some _ => ((u.withPassword? mask).getD u).render

/-- The URL of a configuration as it is shown. -/
def maskedUrl (c : Config) : String := masked c.databaseUrl

end Config

end SqlSession
