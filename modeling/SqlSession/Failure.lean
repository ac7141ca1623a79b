import SqlSession.Text.Quoted

/-! # Failures

Every operation of the library that can fail does so with a `Failure`, which tells apart the causes
that a caller acts on: connectivity, the server, the statement, a column's type, the number of
records, and transaction discipline.  Three texts are made from a failure: its message, its hint, and
its diagnostic form, which shows every field.
-/

namespace SqlSession

/-- Why an operation failed. -/
inductive Failure where
  | connection (message suggestion : String)
  | database (message : String) (code : Option String) (suggestion : String)
  | schema (message object : String)
  | timeout (operation : String) (budgetSecs : Nat)
  | invalidQuery (message : String)
  | invalidType (column expected found : String)
  | requiredEmpty (column : String)
  | recordCount (expected : String) (actual : Nat)
  | recordNotFound
  | affectedRows (expected actual : Nat)
  | transaction (message contextId : String)
  /-- An operation failed, and so did the rollback that followed it. -/
  | rollbackFailed (cause rollback : Failure)
  | internal (message : String)
deriving DecidableEq, Repr, Inhabited

namespace Failure

/-- The message shown to a user. -/
def message : Failure → String
  | connection message _ => s!"Connection failed: {message}"
  | database message _ _ => s!"Database error: {message}"
  | schema message object => s!"Schema error: {message} (object: {object})"
  | timeout operation budget => s!"Timeout: {operation} exceeded {budget}s"
  | invalidQuery message => s!"Invalid query: {message}"
  | invalidType column expected found =>
    s!"Invalid type for column '{column}': expected {expected}, found {found}"
  | requiredEmpty column => s!"Required field returned empty value: {column}"
  | recordCount expected actual => s!"Unexpected record count: expected {expected}, got {actual}"
  | recordNotFound => "Unable to find record"
  | affectedRows expected actual =>
    s!"Unexpected affected row count: expected {expected}, got {actual}"
  | transaction message contextId => s!"Transaction error: {message} (context: {contextId})"
  | rollbackFailed cause rollback => message cause ++ "; rollback also failed: " ++ message rollback
  | internal message => s!"Internal error: {message}"

/-- A hint at a remedy, for the causes that carry one. -/
def suggestion? : Failure → Option String
  | connection _ suggestion => some suggestion
  | database _ _ suggestion => some suggestion
  | _ => none

/-- The server's code of the failure; a failed rollback hides none. -/
def code? : Failure → Option String
  | database _ code _ => code
  | rollbackFailed cause _ => code? cause
  | _ => none

/-- Whether the connection is at fault, and not the statement. -/
def isConnectivity : Failure → Bool
  | connection .. => true
  | timeout .. => true
  | _ => false

/-- The name of the cause. -/
def kind : Failure → String
  | connection .. => "Connection"
  | database .. => "Database"
  | schema .. => "Schema"
  | timeout .. => "Timeout"
  | invalidQuery _ => "InvalidQuery"
  | invalidType .. => "InvalidType"
  | requiredEmpty _ => "RequiredEmpty"
  | recordCount .. => "UnexpectedRecordCount"
  | recordNotFound => "RecordNotFound"
  | affectedRows .. => "UnexpectedAffectedRows"
  | transaction .. => "Transaction"
  | rollbackFailed .. => "RollbackFailed"
  | internal _ => "Internal"

end Failure

/-- A record in diagnostic form: its name, and its fields with their values. -/
def Text.recordText (name : String) (fields : List (String × String)) : String :=
  name ++ " \x7b " ++ ", ".intercalate (fields.map fun (f, v) => f ++ ": " ++ v) ++ " \x7d"

/-- An optional value in diagnostic form. -/
def Text.optionText : Option String → String
  | none => "None"
  | some v => "Some(" ++ v ++ ")"

open Text in
/-- The diagnostic form, every field shown. -/
def Failure.debug : Failure → String
  | connection message suggestion =>
    recordText "Connection" [("message", quoted message), ("suggestion", quoted suggestion)]
  | database message code suggestion =>
    recordText "Database" [("message", quoted message), ("sql_state", optionText (code.map quoted)),
      ("suggestion", quoted suggestion)]
  | schema message object =>
    recordText "Schema" [("message", quoted message), ("object", quoted object)]
  | timeout operation budget =>
    recordText "Timeout" [("operation", quoted operation), ("budget_secs", toString budget)]
  | invalidQuery message => recordText "InvalidQuery" [("message", quoted message)]
  | invalidType column expected found =>
    recordText "InvalidType" [("column", quoted column), ("expected", quoted expected),
      ("found", quoted found)]
  | requiredEmpty column => recordText "RequiredEmpty" [("column", quoted column)]
  | recordCount expected actual =>
    recordText "UnexpectedRecordCount" [("expected", quoted expected), ("actual", toString actual)]
  | recordNotFound => "RecordNotFound"
  | affectedRows expected actual =>
    recordText "UnexpectedAffectedRows" [("expected", toString expected),
      ("actual", toString actual)]
  | transaction message contextId =>
    recordText "Transaction" [("message", quoted message), ("context_id", quoted contextId)]
  | rollbackFailed cause rollback =>
    recordText "RollbackFailed" [("source", debug cause), ("rollback", debug rollback)]
  | internal message => recordText "Internal" [("message", quoted message)]

end SqlSession
