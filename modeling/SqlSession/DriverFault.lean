import SqlSession.Failure

/-! # Faults of a database driver

What can go wrong below the session layer, in the driver's own terms, and the failure that a caller
sees for each fault.
-/

namespace SqlSession

/-- A fault that a database driver reports. -/
inductive DriverFault where
  | configuration (message : String)
  | invalidArgument (message : String)
  /-- The server refused a statement. -/
  | database (message : String) (code : Option String)
  | io (message : String)
  | tls (message : String)
  | protocol (message : String)
  | rowNotFound
  | typeNotFound (name : String)
  | columnIndexOutOfBounds (index size : Nat)
  | columnNotFound (name : String)
  | columnDecode (index message : String)
  | encode (message : String)
  | decode (message : String)
  | anyDriver (message : String)
  | poolTimedOut
  | poolClosed
  | workerCrashed
  | invalidSavepointStatement
  | beginFailed
deriving DecidableEq, Repr

namespace DriverFault

/-- The failure of a fault that has no class of its own. -/
def unknown (message : String) : Failure := .internal ("Unknown database error: " ++ message)

/-- The failure that a caller sees. -/
def toFailure : DriverFault → Failure
  | configuration message =>
    .connection message "Check the connection string format and credentials"
  | invalidArgument message => unknown message
  | database message code => .database message code "Check the SQL syntax and referenced objects"
  | io message =>
    .connection s!"I/O error: {message}" "Check network connectivity and database server status"
  | tls message =>
    .connection s!"TLS error: {message}" "Verify TLS configuration and certificates"
  | protocol message =>
    .connection s!"Protocol error: {message}" "Check database server compatibility"
  | rowNotFound => .recordNotFound
  | typeNotFound name => .schema s!"Type not found: {name}" name
  | columnIndexOutOfBounds index size =>
    .internal s!"Column index {index} out of bounds (len: {size})"
  | columnNotFound name => .schema s!"Column not found: {name}" name
  | columnDecode index message => .internal s!"Failed to decode column {index}: {message}"
  | encode message => unknown s!"error occurred while encoding a value: {message}"
  | decode message => .internal s!"Decode error: {message}"
  | anyDriver message =>
    .connection s!"Driver error: {message}" "Check database driver configuration"
  | poolTimedOut =>
    .connection "Timed out acquiring a connection from the pool"
      "Raise max_open_connections or release connections sooner"
  | poolClosed => .connection "Connection pool is closed" "Reconnect to the database"
  | workerCrashed => .internal "Database worker crashed"
  | invalidSavepointStatement =>
    unknown "attempted to call begin_with at non-zero transaction depth"
  | beginFailed =>
    unknown "got unexpected connection status after attempting to begin transaction"

/-! ### The first column -/

/-- Why a null has no text. -/
def unexpectedNull : String := "unexpected null; try decoding as an \x60Option\x60"

/-- Why a column of another type has no text; `expected` is the type that a text has. -/
def notText (expected found : String) : String :=
  "mismatched types; Rust type \x60alloc::string::String\x60 (as SQL type \x60" ++ expected ++
    "\x60) is not compatible with SQL type \x60" ++ found ++ "\x60"

/-- The text in the first column of the first row of a reply. -/
def firstText (textOf : φ → Option (List UInt8) → Except String String) (fields : List φ)
    (rows : List (List (Option (List UInt8)))) : Except DriverFault String :=
  match rows with
  | [] => .error rowNotFound
  | row :: _ =>
    match fields, row with
    | f :: _, content :: _ => (textOf f content).mapError (columnDecode "0" ·)
    | _, _ => .error (columnIndexOutOfBounds 0 0)

end DriverFault

end SqlSession
