import SqlSession.Url.Basic

/-! # Reading URLs

A text is a URL if it starts with a scheme.  The first number sign starts the fragment and the first
question mark before it the query; what is left is an authority, after two slashes, and a path.  Two
kinds of scheme are told apart: web addresses always have a host, and take a backslash for a slash.
-/

namespace SqlSession.Url

/-! ### Schemes -/

/-- The port that a web scheme uses unless another is given. -/
def webPort? (scheme : List Char) : Option Nat :=
  match String.ofList scheme with
  | "http" | "ws" => some 80
  | "https" | "wss" => some 443
  | "ftp" => some 21
  | _ => none

/-- Whether a scheme is a web scheme. -/
def isWeb (scheme : List Char) : Bool := (webPort? scheme).isSome

/-- Whether a character may stand in a scheme, after its first letter. -/
def isSchemeChar (c : Char) : Bool := c.isAlphanum || c == '+' || c == '-' || c == '.'

/-- The scheme in lower case, and what follows its colon. -/
def cutScheme? (s : List Char) : Option (List Char × List Char) := do
  let (scheme, rest) ← Text.cutAt ':' s
  if (scheme.head?.any Char.isAlpha) && scheme.all isSchemeChar then
    return (scheme.map Char.toLower, rest)
  else none

/-! ### Authorities -/

/-- The characters of a host, up to a colon outside brackets, and what follows them. -/
def cutHost : Bool → List Char → List Char × List Char
  | _, [] => ([], [])
  | bracketed, c :: r =>
    if c = ':' ∧ !bracketed then ([], c :: r)
    else
      let (host, rest) := cutHost (c == '[' || (bracketed && c != ']')) r
      (c :: host, rest)

/-- The port, unless it is the usual one of the scheme, and what follows its digits.  No digits are no
port. -/
def readPort (scheme s : List Char) : Except Fault (Option Nat × List Char) :=
  let digits := s.takeWhile Char.isDigit
  let rest := s.dropWhile Char.isDigit
  let port := Nat.ofDigitChars 10 digits 0
  if !digits.isEmpty && 65535 < port then .error .badPort
  else if rest.head?.any (· != '\\') then .error .badPort
  else .ok (if digits.isEmpty || webPort? scheme == some port then none else some port, rest)

/-- The user and the password before an `@`. -/
def readLogin (s : List Char) : Login :=
  match Text.cutAt ':' s with
  | some (user, password) =>
    ⟨percentEncode escapedInLogin user,
      if password.isEmpty then none else some (percentEncode escapedInLogin password)⟩
  | none => ⟨percentEncode escapedInLogin s, none⟩

/-- The host that a name is. -/
def readHost (scheme name : List Char) : Except Fault Host :=
  if isWeb scheme then Host.ofDomain name else Host.ofOpaque name

/-- The host and the port of a text with a login before it, and what is left of the text after the
port. -/
def readServer (scheme : List Char) (login : Login) (s : List Char) :
    Except Fault (Authority × List Char) :=
  let (name, rest) := cutHost false s
  if name.isEmpty then
    if isWeb scheme || !rest.isEmpty || login ≠ Login.none then .error .emptyHost
    else .ok (.hostless, [])
  else do
    let host ← readHost scheme name
    match rest with
    | ':' :: r =>
      let (port, left) ← readPort scheme r
      return (.server login host port, left)
    | _ => return (.server login host none, [])

/-- The authority of a text, and what is left of the text after a port.  `more` says whether anything
follows the authority. -/
def readAuthority (scheme : List Char) (more : Bool) (s : List Char) :
    Except Fault (Authority × List Char) :=
  match Text.cutAtLast '@' s with
  | some (before, after) =>
    if before.isEmpty && after.isEmpty && more then .error .emptyHost
    else readServer scheme (readLogin before) after
  | none => readServer scheme Login.none s

/-! ### Paths -/

/-- Whether a character is a slash, as a backslash is under a web scheme. -/
def isSlash (web : Bool) (c : Char) : Bool := c = '/' || (web && c = '\\')

/-- Whether a segment stands for the place that the path has reached. -/
def isSingleDot (segment : List Char) : Bool :=
  [".", "%2e"].contains (String.ofList (segment.map Char.toLower))

/-- Whether a segment stands for the place above the one that the path has reached. -/
def isDoubleDot (segment : List Char) : Bool :=
  ["..", ".%2e", "%2e.", "%2e%2e"].contains (String.ofList (segment.map Char.toLower))

/-- Whether a segment names a drive: a letter, and a colon or a bar. -/
def isDrive : List Char → Bool
  | [c, mark] => c.isAlpha && (mark == ':' || mark == '|')
  | _ => false

/-- The segments, last first, of the place above; there is none above a drive. -/
def ascend (done : List (List Char)) : List (List Char) :=
  if done.head?.any isDrive then done else done.tail

/-- The segments of a path without dot segments; `done` are those before, last first.  A dot segment
at the end leaves an empty segment there. -/
def resolve (done : List (List Char)) : List (List Char) → List (List Char)
  | [] => done.reverse
  | s :: r =>
    let after :=
      if isDoubleDot s then ascend done else if isSingleDot s then done else s :: done
    if r.isEmpty && (isDoubleDot s || isSingleDot s) then ([] :: after).reverse else resolve after r

/-- The segments of a path that starts with a slash. -/
def readSegments (web : Bool) (s : List Char) : List (List Char) :=
  let slashed := if web then s.map fun c => if c = '\\' then '/' else c else s
  resolve [] ((Text.pieces '/' (slashed.drop 1)).map (percentEncode escapedInPath))

/-- The path after an authority. -/
def readPath (web : Bool) (s : List Char) : Path :=
  match s with
  | [] => .segments (if web then [[]] else [])
  | c :: _ => .segments (readSegments web (if isSlash web c then s else '/' :: s))

/-! ### The whole -/

/-- What stands before the first character `c`, and what stands after it. -/
def cutOff (c : Char) (s : List Char) : List Char × Option (List Char) :=
  match Text.cutAt c s with
  | some (before, after) => (before, some after)
  | none => (s, none)

/-- What follows the slashes before an authority, if the text has one: two slashes, or under a web
scheme any number of them. -/
def afterSlashes (web : Bool) (s : List Char) : Option (List Char) :=
  if web then some (s.dropWhile (isSlash web)) else Text.afterPrefix ['/', '/'] s

/-- The authority and the path in what follows a scheme.  `more` says whether a query or a fragment
follows. -/
def readHierarchy (scheme : List Char) (more : Bool) (s : List Char) :
    Except Fault (Authority × Path) :=
  let web := isWeb scheme
  match afterSlashes web s with
  | some r => do
    let path := r.dropWhile (!isSlash web ·)
    let (authority, left) ←
      readAuthority scheme (more || !path.isEmpty) (r.takeWhile (!isSlash web ·))
    return (authority, readPath web (left ++ path))
  | none =>
    if s.head? == some '/' then .ok (.absent, .segments (readSegments false s))
    else .ok (.absent, .plain (percentEncode escapedAnywhere s))

/-- Whether a character is a control or a space. -/
def isOuter (c : Char) : Bool := c.toNat ≤ 0x20

/-- A text without the controls and spaces that it ends in. -/
def trimOuterEnd (s : List Char) : List Char := (s.reverse.dropWhile isOuter).reverse

/-- A text without tabs and line ends. -/
def unbroken (s : List Char) : List Char := s.filter fun c => c ≠ '\t' ∧ c ≠ '\n' ∧ c ≠ '\r'

/-- A text without the controls and spaces around it and without tabs and line ends. -/
def clean (s : List Char) : List Char := unbroken (trimOuterEnd (s.dropWhile isOuter))

/-- The URL that a text is.  The address of a file has no login, and is kept in one piece. -/
def ofText (s : String) : Except Fault Url :=
  match cutScheme? (clean s.toList) with
  | none => .error .noScheme
  | some (scheme, rest) =>
    if String.ofList scheme = "file" then .ok ⟨scheme, .absent, .plain rest, none, none⟩
    else do
      let (body, fragment) := cutOff '#' rest
      let (hierarchy, query) := cutOff '?' body
      let (authority, path) ← readHierarchy scheme (query.isSome || fragment.isSome) hierarchy
      return {
        scheme, authority, path
        query := query.map (percentEncode (if isWeb scheme then escapedInWebQuery else escapedInQuery))
        fragment := fragment.map (percentEncode escapedInFragment) }

end SqlSession.Url
