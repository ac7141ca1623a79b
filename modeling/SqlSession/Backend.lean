import SqlSession.Text.Fold
import SqlSession.Text.Search

/-! # Backends

The database systems that can be driven, and the schemes of connection strings that name them.
-/

namespace SqlSession

/-- A database system. -/
inductive Backend where
  | postgres
  /-- Also serves MariaDB. -/
  | mysql
  | sqlite
deriving DecidableEq, Repr

namespace Backend

/-- The system that the scheme of a connection string names, in any case. -/
def ofConnectionString? (url : String) : Option Backend := do
  let (scheme, _) ← Text.cutAt ':' url.toList
  let name := Text.lowerAscii (String.ofList scheme)
  if name = "postgres" ∨ name = "postgresql" then some postgres
  else if name = "mysql" ∨ name = "mariadb" then some mysql
  else if name = "sqlite" then some sqlite
  else none

/-- The name shown to a user. -/
def displayName : Backend → String
  | postgres => "PostgreSQL"
  | mysql => "MySQL"
  | sqlite => "SQLite"

/-- The name in serialized form. -/
def serialName : Backend → String
  | postgres => "postgresql"
  | mysql => "mysql"
  | sqlite => "sqlite"

/-- Whether a connection URL can carry a user and a password. -/
def usesCredentials : Backend → Bool
  | sqlite => false
  | _ => true

end Backend

end SqlSession
