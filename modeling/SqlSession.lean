import SqlSession.Main
import SqlSession.Pool.Line
import SqlSession.Rehearsal.KeyValue
import SqlSession.Rehearsal.Play
import SqlSession.Sqlite.Decode
import SqlSession.Proofs.Act.Trace
import SqlSession.Proofs.Act.Calls
import SqlSession.Proofs.Transaction.Flat
import SqlSession.Proofs.Transaction.Nested
import SqlSession.Proofs.Transaction.Retry
import SqlSession.Proofs.Custody.Session
import SqlSession.Proofs.Custody.Guards
import SqlSession.Proofs.Transaction.Forgiving
import SqlSession.Proofs.Transaction.Depth
import SqlSession.Proofs.Timing.Deadline
import SqlSession.Proofs.Statement.Markers
import SqlSession.Proofs.Custody.Doubt
import SqlSession.Proofs.Custody.Panic
import SqlSession.Proofs.Postgres.Numeric
import SqlSession.Proofs.Config.Credentials
import SqlSession.Proofs.Config.Secrecy
import SqlSession.Proofs.Rows.Decoding
import SqlSession.Proofs.Postgres.Signs
import SqlSession.Proofs.Statement.Locking
import SqlSession.Proofs.Custody.Failures
import SqlSession.Proofs.Timing.Attempts
import SqlSession.Proofs.Rows.Integers
import SqlSession.Proofs.Rows.Equality
import SqlSession.Proofs.Transaction.ErrorClass
import SqlSession.Proofs.Param.RoundTrip
import SqlSession.Proofs.Param.Intake
import SqlSession.Proofs.Pool.Return
import SqlSession.Proofs.Rows.Names
import SqlSession.Proofs.Mysql.Integers
import SqlSession.Proofs.Sqlite.Values
import SqlSession.Proofs.Statement.EntryPoints
import SqlSession.Proofs.Metrics.Account
import SqlSession.Proofs.Rows.Required
