import SqlSession.Backend
import SqlSession.Text.Quoted
import SqlSession.Url.Parser

/-! # Connection options

What a connection string says about the connection to make.  Strings for the two network systems are
URLs whose query may override some parts; a string for a file is a scheme, a path and a query of its
own form.
-/

namespace SqlSession.Pool

/-! ### Faults -/

/-- Why a text is not a number. -/
inductive NumberFault where
  | empty
  | badDigit
  | tooLarge
deriving DecidableEq, Repr

namespace NumberFault

/-- The wording of a fault. -/
def message : NumberFault → String
  | empty => "cannot parse integer from empty string"
  | badDigit => "invalid digit found in string"
  | tooLarge => "number too large to fit in target type"

end NumberFault

/-- Why a connection string is refused. -/
inductive OptionFault where
  | badUrl (fault : Url.Fault)
  /-- A part does not stand for text. -/
  | badText (fault : Text.Utf8Fault)
  | badNumber (fault : NumberFault)
  | badAddress
  /-- A security mode that does not exist. -/
  | unknownMode (value : String)
  /-- A value that a parameter of a file cannot have. -/
  | unknownValue (value parameter : String)
  /-- A parameter that a file does not have. -/
  | unknownParameter (name : String)
deriving DecidableEq, Repr

namespace OptionFault

/-- What the wording of every fault begins with. -/
def lead : String := "error with configuration: "

/-- That a parameter cannot have a value. -/
def unknownText (value parameter : String) : String :=
  "unknown value " ++ Text.quoted value ++ " for \x60" ++ parameter ++ "\x60"

/-- The wording of a fault. -/
def message : OptionFault → String
  | badUrl f => lead ++ f.message
  | badText f => lead ++ f.message
  | badNumber f => lead ++ f.message
  | badAddress => lead ++ "invalid IP address syntax"
  | unknownMode value => lead ++ lead ++ unknownText value "ssl_mode"
  | unknownValue value parameter => lead ++ unknownText value parameter
  | unknownParameter name =>
    lead ++ "unknown query parameter \x60" ++ name ++ "\x60 while parsing connection URL"

end OptionFault

/-! ### Values -/

/-- Digits read onto a number below a limit. -/
def digitsWithin (limit : Nat) (n : Nat) : List Char → Except NumberFault Nat
  | [] => .ok n
  | c :: r =>
    if !c.isDigit then .error .badDigit
    else
      let m := n * 10 + (c.toNat - '0'.toNat)
      if limit ≤ m then .error .tooLarge else digitsWithin limit m r

/-- A decimal number below a limit, with at most a plus sign.  Whichever of a bad digit and too large a
number comes first is the fault. -/
def numberWithin (limit : Nat) (s : String) : Except NumberFault Nat :=
  match s.toList with
  | [] => .error .empty
  | ['+'] => .error .badDigit
  | '+' :: r => digitsWithin limit 0 r
  | r => digitsWithin limit 0 r

/-- A number that a parameter gives. -/
def numberOption (limit : Nat) (s : String) : Except OptionFault Nat :=
  (numberWithin limit s).mapError .badNumber

/-- A part of a URL as text. -/
def textOption (s : List Char) : Except OptionFault String := (Url.percentDecode s).mapError .badText

/-- Whether a text is an address of either version. -/
def isAddress (s : String) : Bool :=
  let octets := (Text.pieces '.' s.toList).mapM Url.Host.octet?
  (octets.any (·.length = 4)) || (Url.Host.address6? s.toList).isSome

/-! ### Network systems -/

/-- Where and as whom to connect over the network. -/
structure NetworkOptions where
  host : Option String
  port : Option Nat
  user : Option String
  password : Option String
  database : Option String
deriving DecidableEq, Repr

namespace NetworkOptions

/-- The options in the parts of a URL other than the query.  A host that starts with a slash once it is
decoded is a path, and must be text. -/
def ofParts (u : Url) : Except OptionFault NetworkOptions := do
  let hostText := (u.host?.map Url.Host.text).getD []
  let host ←
    if (Url.percentOctets hostText).head? = some 47 then textOption hostText
    else pure (String.ofList hostText)
  let user ← textOption u.user
  let password ← u.password?.mapM textOption
  let path := String.ofList (u.path.text.dropWhile (· = '/'))
  return {
    host := if host.isEmpty then none else some host
    port := u.port?
    user := if user.isEmpty then none else some user
    password
    database := if path.isEmpty then none else some path }

/-- Checks the name of a security mode, in any case. -/
def checkMode (modes : List String) (value : String) : Except OptionFault Unit :=
  if modes.contains (Text.lowerAscii value) then .ok () else .error (.unknownMode value)

/-- The security modes of PostgreSQL. -/
def postgresModes : List String :=
  ["disable", "allow", "prefer", "require", "verify-ca", "verify-full"]

/-- The security modes of MySQL. -/
def mysqlModes : List String := ["disabled", "preferred", "required", "verify_ca", "verify_identity"]

/-- The options with a parameter of the query applied.  Parameters that are not known change nothing. -/
def withPostgresParameter (o : NetworkOptions) : String × String → Except OptionFault NetworkOptions
  | ("sslmode", v) | ("ssl-mode", v) => (checkMode postgresModes v).map fun _ => o
  | ("statement-cache-capacity", v) => (numberOption (Nat.pow 2 64) v).map fun _ => o
  | ("host", v) => .ok { o with host := some v }
  | ("hostaddr", v) => if isAddress v then .ok { o with host := some v } else .error .badAddress
  | ("port", v) => (numberOption (Nat.pow 2 16) v).map fun n => { o with port := some n }
  | ("dbname", v) => .ok { o with database := some v }
  | ("user", v) => .ok { o with user := some v }
  | ("password", v) => .ok { o with password := some v }
  | _ => .ok o

/-- The options with a parameter of the query applied.  Parameters that are not known change nothing. -/
def withMysqlParameter (o : NetworkOptions) : String × String → Except OptionFault NetworkOptions
  | ("sslmode", v) | ("ssl-mode", v) => (checkMode mysqlModes v).map fun _ => o
  | ("statement-cache-capacity", v) => (numberOption (Nat.pow 2 64) v).map fun _ => o
  | ("socket", v) => .ok { o with host := some v }
  | _ => .ok o

/-- The options of a connection string. -/
def ofString (apply : NetworkOptions → String × String → Except OptionFault NetworkOptions)
    (s : String) : Except OptionFault NetworkOptions := do
  let u ← (Url.ofText s).mapError .badUrl
  u.parameters.foldlM apply (← ofParts u)

end NetworkOptions

/-! ### Files -/

/-- Which file to open, and how. -/
structure FileOptions where
  path : String
  inMemory : Bool
  readOnly : Bool
deriving DecidableEq, Repr

namespace FileOptions

/-- A text without the given start, however often it stands there. -/
def withoutStart (start : List Char) : Nat → List Char → List Char
  | 0, s => s
  | fuel + 1, s =>
    match Text.afterPrefix start s with
    | some r => withoutStart start fuel r
    | none => s

/-- The path and the query of a connection string. -/
def splitString (s : String) : List Char × Option (List Char) :=
  let chars := s.toList
  let bare := withoutStart "sqlite://".toList chars.length chars
  Url.cutOff '?' (withoutStart "sqlite:".toList bare.length bare)

/-- A value that must be one of a few. -/
def oneOf (parameter value : String) (allowed : List String) (o : FileOptions) :
    Except OptionFault FileOptions :=
  if allowed.contains value then .ok o else .error (.unknownValue value parameter)

/-- The options with a parameter of the query applied. -/
def withParameter (o : FileOptions) : String × String → Except OptionFault FileOptions
  | ("mode", v) =>
    oneOf "mode" v ["ro", "rw", "rwc", "memory"]
      { o with readOnly := o.readOnly || v == "ro", inMemory := o.inMemory || v == "memory" }
  | ("cache", v) => oneOf "cache" v ["private", "shared"] o
  | ("immutable", v) => oneOf "immutable" v ["true", "1", "false", "0"] o
  | ("vfs", _) => .ok o
  | (name, _) => .error (.unknownParameter name)

/-- The options of a connection string. -/
def ofString (s : String) : Except OptionFault FileOptions := do
  let (database, query) := splitString s
  let inMemory := database = ":memory:".toList
  let path ← if inMemory then pure "" else textOption database
  (Url.formPairs (query.getD [])).foldlM withParameter ⟨path, inMemory, false⟩

end FileOptions

/-! ### Targets -/

/-- What a pool connects to. -/
inductive Destination where
  | postgres (options : NetworkOptions)
  | mysql (options : NetworkOptions)
  | sqlite (options : FileOptions)
deriving DecidableEq, Repr

namespace Destination

/-- What a connection string for a system names. -/
def ofString (b : Backend) (s : String) : Except OptionFault Destination :=
  match b with
  | .postgres => (NetworkOptions.ofString NetworkOptions.withPostgresParameter s).map postgres
  | .mysql => (NetworkOptions.ofString NetworkOptions.withMysqlParameter s).map mysql
  | .sqlite => (FileOptions.ofString s).map sqlite

end Destination

end SqlSession.Pool
