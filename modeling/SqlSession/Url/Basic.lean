import SqlSession.Url.Host

/-! # URLs

A URL in its parts, each as it is written, and the text of the whole.  Parts are lists of characters,
the form in which they are cut out of a text.  Only a URL with a host can carry a user and a password.
-/

namespace SqlSession.Url

/-- A user and a password, percent-encoded. -/
structure Login where
  /-- Empty where the URL names no user. -/
  user : List Char
  /-- Never empty. -/
  password : Option (List Char)
deriving DecidableEq, Repr

namespace Login

/-- Neither a user nor a password. -/
def none : Login := ⟨[], .none⟩

/-- A login as it stands before the host. -/
def text (l : Login) : List Char :=
  match l.user, l.password with
  | [], .none => []
  | user, .none => user ++ ['@']
  | user, some password => user ++ ':' :: password ++ ['@']

end Login

/-- What stands between the scheme and the path. -/
inductive Authority where
  | absent
  /-- Two slashes and nothing more. -/
  | hostless
  | server (login : Login) (host : Host) (port : Option Nat)
deriving DecidableEq, Repr

namespace Authority

/-- An authority as it stands after the colon of the scheme. -/
def text : Authority → List Char
  | absent => []
  | hostless => ['/', '/']
  | server login host port =>
    ['/', '/'] ++ login.text ++ host.text ++ (port.elim [] fun n => ':' :: (toString n).toList)

end Authority

/-- The path of a URL. -/
inductive Path where
  /-- A path that is no list of segments. -/
  | plain (text : List Char)
  /-- Segments, each after a slash. -/
  | segments (list : List (List Char))
deriving DecidableEq, Repr

namespace Path

/-- A path as it stands in a URL. -/
def text : Path → List Char
  | plain s => s
  | segments list => list.flatMap ('/' :: ·)

/-- What keeps a path from being read as an authority, where there is no authority. -/
def guard : Path → List Char
  | segments ([] :: _ :: _) => ['/', '.']
  | _ => []

end Path

end SqlSession.Url

namespace SqlSession

/-- A URL. -/
structure Url where
  /-- In lower case. -/
  scheme : List Char
  authority : Url.Authority
  path : Url.Path
  query : Option (List Char)
  fragment : Option (List Char)
deriving DecidableEq, Repr

namespace Url

/-- The text of a URL. -/
def text (u : Url) : List Char :=
  u.scheme ++ [':'] ++ u.authority.text ++
    (if u.authority = .absent then u.path.guard else []) ++ u.path.text ++
    (u.query.elim [] ('?' :: ·)) ++ (u.fragment.elim [] ('#' :: ·))

/-- A URL as a string. -/
def render (u : Url) : String := String.ofList u.text

/-! ### Parts -/

/-- The login of a URL, if it has a host. -/
def login? (u : Url) : Option Login :=
  match u.authority with
  | .server login _ _ => some login
  | _ => none

/-- The user of a URL, percent-encoded; empty where it names none. -/
def user (u : Url) : List Char := (u.login?.map Login.user).getD []

/-- The password of a URL, percent-encoded. -/
def password? (u : Url) : Option (List Char) := u.login?.bind Login.password

/-- The host of a URL. -/
def host? (u : Url) : Option Host :=
  match u.authority with
  | .server _ host _ => some host
  | _ => none

/-- The port of a URL. -/
def port? (u : Url) : Option Nat :=
  match u.authority with
  | .server _ _ port => port
  | _ => none

/-- The names and values of the query. -/
def parameters (u : Url) : List (String × String) := formPairs (u.query.getD [])

/-! ### Changing the login -/

/-- The URL with its login changed, if it has a host. -/
def mapLogin? (u : Url) (f : Login → Login) : Option Url :=
  match u.authority with
  | .server login host port => some { u with authority := .server (f login) host port }
  | _ => none

/-- The URL with another user, if it has a host. -/
def withUser? (u : Url) (user : String) : Option Url :=
  u.mapLogin? fun l => { l with user := percentEncode escapedInLogin user.toList }

/-- The URL with another password, if it has a host.  An empty password is none. -/
def withPassword? (u : Url) (password : String) : Option Url :=
  u.mapLogin? fun l =>
    { l with
      password :=
        if password.isEmpty then none else some (percentEncode escapedInLogin password.toList) }

end Url

end SqlSession
