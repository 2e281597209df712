import Failover.Host
import Failover.Operation

/-! A connection to one host: the settings of its session there, and what is known of the server. -/
namespace Failover

abbrev Handle := Nat

structure Connection where
  host : Host
  /-- The server's count of stops when the connection was opened. -/
  generation : Nat
  database : Option String := none
  autocommit : Bool := true
  /-- None while the server's default applies. -/
  isolation : Option Isolation := none
  maxRows : UInt32 := 0
  maxAllowedPacket : UInt32 := 16777216
  readOnly : Bool := false
  inTransaction : Bool := false
  closed : Bool := false
  /-- What the server last said about taking writes. -/
  lastPrimary : Bool

namespace Connection

instance : Inhabited Connection :=
  ⟨{ host := ⟨default, .unset⟩, generation := 0, lastPrimary := false }⟩

/-- The declared role decides; without one, what the server last said. -/
def isPrimary (c : Connection) : Bool :=
  match c.host.role with
  | .primary => true
  | .replica => false
  | .unset => c.lastPrimary

/-- What a statement in keyword form does to the session on the server. -/
def obey (command : String) (c : Connection) : Connection :=
  match command with
  | "BEGIN" | "START TRANSACTION" => { c with inTransaction := true }
  | "COMMIT" | "ROLLBACK" => { c with inTransaction := false }
  | "SET AUTOCOMMIT=1" => { c with autocommit := true }
  | "SET AUTOCOMMIT=0" => { c with autocommit := false }
  | "SET SESSION TRANSACTION READ ONLY" => { c with readOnly := true }
  | "SET SESSION TRANSACTION READ WRITE" => { c with readOnly := false }
  | _ => c

end Connection

end Failover
