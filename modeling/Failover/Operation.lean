import Failover.Text.Blank
import Failover.Text.Upper

/-! What callers ask of a connection, what they get back, and which statements may be sent twice. -/
namespace Failover

inductive Isolation where
  | readUncommitted
  | readCommitted
  | repeatableRead
  | serializable
  deriving DecidableEq

def Isolation.text : Isolation → String
  | .readUncommitted => "READ UNCOMMITTED"
  | .readCommitted => "READ COMMITTED"
  | .repeatableRead => "REPEATABLE READ"
  | .serializable => "SERIALIZABLE"

def Isolation.ofText? : String → Option Isolation
  | "READ UNCOMMITTED" => some .readUncommitted
  | "READ COMMITTED" => some .readCommitted
  | "REPEATABLE READ" => some .repeatableRead
  | "SERIALIZABLE" => some .serializable
  | _ => none

structure QueryResult where
  columns : List String := []
  rows : List (List (Option String)) := []
  affectedRows : UInt64 := 0
  deriving DecidableEq

namespace QueryResult

def empty : QueryResult := {}

def affecting (rows : UInt64) : QueryResult := { affectedRows := rows }

def scalar (column value : String) : QueryResult := { columns := [column], rows := [[some value]] }

def firstValue (r : QueryResult) : Option String := do
  (← (← r.rows.head?).head?)

end QueryResult

inductive Operation where
  | query (sql : String)
  | batch (statements : List String)
  | selectDatabase (name : String)
  | setAutocommit (enabled : Bool)
  | setIsolation (level : Isolation)
  | setMaxRows (max : UInt32)
  deriving DecidableEq

def keywords (sql : String) : List Char := Text.upper (Text.trim sql.toList)

/-- Crash orders and kill commands must not reach a second server. -/
def isDestructive (sql : String) : Bool :=
  keywords sql == "ALTER SYSTEM CRASH".toList || "KILL".toList.isPrefixOf (keywords sql)

def isWrite (sql : String) : Bool :=
  ["INSERT", "UPDATE", "DELETE", "CREATE", "DROP", "ALTER", "REPLACE"].any fun verb =>
    verb.toList.isPrefixOf (Text.upper (Text.trimStart sql.toList))

namespace Operation

def isQuery : Operation → Bool
  | query _ | batch _ => true
  | _ => false

def isReplayable : Operation → Bool
  | query sql => !isDestructive sql
  | batch statements => !statements.any isDestructive
  | _ => true

def text : Operation → String
  | query sql => "executeQuery(" ++ sql ++ ")"
  | batch statements => "executeBatch(" ++ toString statements.length ++ " statements)"
  | selectDatabase name => "selectDatabase(" ++ name ++ ")"
  | setAutocommit enabled => "setAutocommit(" ++ (if enabled then "true" else "false") ++ ")"
  | setIsolation level => "setTransactionIsolation(" ++ level.text ++ ")"
  | setMaxRows max => "setMaxRows(" ++ toString max.toNat ++ ")"

end Operation

def autocommitStatement (enabled : Bool) : String :=
  if enabled then "set autocommit=1" else "set autocommit=0"

def readOnlyStatement (readOnly : Bool) : String :=
  if readOnly then "SET SESSION TRANSACTION READ ONLY" else "SET SESSION TRANSACTION READ WRITE"

end Failover
