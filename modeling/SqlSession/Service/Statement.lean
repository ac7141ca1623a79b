import SqlSession.QueryResult
import SqlSession.Service.Basic
import SqlSession.Statement.Template

/-! # Statements of contexts

A statement runs on the connection of its context, within its transaction if there is one, and on no
connection of the caller's when the context is detached.  Five operations differ in what they ask of
the result; each has a form for a text with parameters and one for a template.
-/

namespace SqlSession.Service

open Statement (Template)

variable (s : Service σ)

/-- Runs a query; its rows are the result.  With `forUpdate` the statement gets a lock clause. -/
def select (id sql : String) (forUpdate : Bool) (params : List Param) : Act σ QueryResult :=
  s.observe "select" do
    let text := if forUpdate then Statement.locked sql else sql
    let ctx ← Act.context id
    let b ← budget ctx.deadline s.settings.readSecs
    let reply ← s.server.callWithin b "select" (.fetch (.ofHandle ctx.handle) text params)
    let result := QueryResult.ofRows reply.rows.decode
    Act.log (.queryExecuted id text result.rowCount)
    return result

/-- At most one row. -/
def selectUnique (id sql : String) (forUpdate : Bool) (params : List Param) :
    Act σ (Option Row) := do
  Act.ofExcept (← s.select id sql forUpdate params).unique

/-- A row that must be there. -/
def someRow : Option Row → Except Failure Row
  | some r => .ok r
  | none => .error .recordNotFound

/-- Exactly one row. -/
def selectUniqueNonEmpty (id sql : String) (forUpdate : Bool) (params : List Param) :
    Act σ Row := do
  Act.ofExcept (someRow (← s.selectUnique id sql forUpdate params))

/-- Runs a statement; the number of affected rows is the result. -/
def execute (id sql : String) (params : List Param) : Act σ QueryResult :=
  s.observe "execute" do
    let ctx ← Act.context id
    let b ← budget ctx.deadline s.settings.writeSecs
    let reply ← s.server.callWithin b "execute" (.execute (.ofHandle ctx.handle) sql params)
    Act.log (.statementExecuted id sql reply.affected)
    return .ofAffected reply.affected

/-- A result with exactly one affected row. -/
def oneAffected (r : QueryResult) : Except Failure QueryResult :=
  if r.affected = 1 then .ok r else .error (.affectedRows 1 r.affected)

/-- Runs a statement that must affect exactly one row. -/
def executeOne (id sql : String) (params : List Param) : Act σ QueryResult := do
  Act.ofExcept (oneAffected (← s.execute id sql params))

/-! ### Templates -/

/-- The statement and parameters of a template. -/
def built (t : Template) : Act σ (String × List Param) :=
  Act.ofExcept (t.build.mapError Statement.Fault.toFailure)

/-- `select` of a template, which renders its own lock clause. -/
def selectTemplate (id : String) (t : Template) : Act σ QueryResult := do
  let (sql, params) ← built t
  s.select id sql false params

/-- `selectUnique` of a template. -/
def selectUniqueTemplate (id : String) (t : Template) : Act σ (Option Row) := do
  Act.ofExcept (← s.selectTemplate id t).unique

/-- `selectUniqueNonEmpty` of a template. -/
def selectUniqueNonEmptyTemplate (id : String) (t : Template) : Act σ Row := do
  Act.ofExcept (someRow (← s.selectUniqueTemplate id t))

/-- `execute` of a template. -/
def executeTemplate (id : String) (t : Template) : Act σ QueryResult := do
  let (sql, params) ← built t
  s.execute id sql params

/-- `executeOne` of a template. -/
def executeOneTemplate (id : String) (t : Template) : Act σ QueryResult := do
  Act.ofExcept (oneAffected (← s.executeTemplate id t))

end SqlSession.Service
