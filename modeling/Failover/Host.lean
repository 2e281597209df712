/-! Servers, the roles they declare, and the topologies made of them. -/
namespace Failover

/-- The part a server plays: it takes writes, it follows a primary, or it does not say. -/
inductive Role where
  | primary
  | replica
  | unset
  deriving DecidableEq

def Role.text : Role → String
  | .primary => "primary"
  | .replica => "replica"
  | .unset => "unset"

def Role.ofText? : String → Option Role
  | "primary" => some .primary
  | "replica" => some .replica
  | "unset" => some .unset
  | _ => none

/-- Where a server listens. Two hosts are the same server when their endpoints agree. -/
structure Endpoint where
  name : String
  port : UInt16
  deriving DecidableEq, Inhabited

def Endpoint.text (e : Endpoint) : String := e.name ++ ":" ++ toString e.port.toNat

structure Host where
  endpoint : Endpoint
  role : Role := .unset
  deriving DecidableEq

namespace Host

def text (h : Host) : String := h.endpoint.text

def textWithRole (h : Host) : String := h.text ++ " " ++ h.role.text

def mayBePrimary (h : Host) : Bool := h.role != .replica

def mayBeReplica (h : Host) : Bool := h.role != .primary

end Host

inductive Mode where
  /-- One writer, which any host may replace. -/
  | masterOnly
  /-- Reads and writes split by declared roles. -/
  | replication
  /-- Reads and writes split by the roles that the servers report. -/
  | aurora
  deriving DecidableEq

namespace Mode

def text : Mode → String
  | masterOnly => "master-only"
  | replication => "replication"
  | aurora => "aurora"

def ofText? : String → Option Mode
  | "master-only" => some masterOnly
  | "replication" => some replication
  | "aurora" => some aurora
  | _ => none

def hasReplicas (m : Mode) : Bool := m != masterOnly

def discoversRoles (m : Mode) : Bool := m == aurora

/-- The role a declaration stands for: nothing where roles are discovered, a primary where it is
left open. -/
def roleOf : Mode → Role → Role
  | aurora, _ => .unset
  | _, .unset => .primary
  | _, role => role

theorem roleOf_ne_unset {m : Mode} (h : m ≠ aurora) (r : Role) : m.roleOf r ≠ .unset := by
  cases m <;> cases r <;> simp_all [roleOf]

end Mode

/-- The candidate hosts of one session, in order. -/
structure Topology where
  mode : Mode
  hosts : List Host

namespace Topology

def ofHosts (mode : Mode) (hosts : List Host) : Topology :=
  ⟨mode, hosts.map fun h => { h with role := mode.roleOf h.role }⟩

def isSingleHost (t : Topology) : Bool := t.hosts.length == 1

end Topology
end Failover
