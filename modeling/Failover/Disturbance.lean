import Failover.Host

/-! Troubles that calls over a connection may meet. -/
namespace Failover

inductive Call where
  | connect
  | ping
  | check
  | exec
  | isolation
  | database
  deriving DecidableEq

def Call.text : Call → String
  | .connect => "connect"
  | .ping => "ping"
  | .check => "check"
  | .exec => "exec"
  | .isolation => "isolation"
  | .database => "database"

def Call.ofText? : String → Option Call
  | "connect" => some .connect
  | "ping" => some .ping
  | "check" => some .check
  | "exec" => some .exec
  | "isolation" => some .isolation
  | "database" => some .database
  | _ => none

inductive Trouble where
  | io
  | connectivity
  | query
  /-- Yes-or-no calls answer no. -/
  | refusal
  deriving DecidableEq

def Trouble.ofText? : String → Option Trouble
  | "io" => some .io
  | "connectivity" => some .connectivity
  | "query" => some .query
  | "false" => some .refusal
  | _ => none

/-- A delay for every call, and a trouble for the next few. -/
structure Disturbance where
  delay : Nat := 0
  trouble : Option Trouble := none
  times : Nat := 0

end Failover
