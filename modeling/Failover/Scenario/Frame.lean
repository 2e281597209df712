import Failover.Session.Service

/-! What is seen of a scenario: the replies to its steps, and its sessions and servers. -/
namespace Failover.Scenario

structure Properties where
  host : Host
  closed : Bool
  inTransaction : Bool
  autocommit : Bool
  database : Option String
  isolation : Option Isolation
  maxRows : UInt32
  maxAllowedPacket : UInt32
  readOnly : Bool
  isPrimary : Bool

def Properties.ofConnection (c : Connection) : Properties :=
  { host := c.host, closed := c.closed, inTransaction := c.inTransaction
    autocommit := c.autocommit, database := c.database, isolation := c.isolation
    maxRows := c.maxRows, maxAllowedPacket := c.maxAllowedPacket, readOnly := c.readOnly
    isPrimary := c.isPrimary }

/-- What a session shows of itself at any time. -/
structure Status where
  mode : Mode
  active : Active
  current : Option Properties
  primaryHost : Option Host
  secondaryHost : Option Host
  readOnly : Bool
  primaryFailed : Bool
  secondaryFailed : Bool
  attempts : UInt32
  queries : UInt32
  retryArmed : Bool
  pingArmed : Bool

def Status.ofDesk (d : Desk) : Status :=
  let s := d.session
  let host (h : Option Handle) := h.map fun h => (d.network.connection h).host
  { mode := s.topology.mode
    active := s.active
    current := s.current.map fun h => .ofConnection (d.network.connection h)
    primaryHost := host s.primary
    secondaryHost := host s.secondary
    readOnly := s.isReadOnly
    primaryFailed := s.outage.primaryFailed
    secondaryFailed := s.outage.secondaryFailed
    attempts := s.outage.attempts
    queries := s.outage.queries
    retryArmed := s.retryLoop.armed
    pingArmed := s.pingLoop.armed }

structure Description where
  topology : Topology
  policy : Policy
  options : Options
  shouldReconnect : Bool
  isReadOnly : Bool
  blacklisted : Nat

structure SearchReport where
  result : Option (Except Error Unit)
  /-- With each connection whether it is closed. -/
  found : List (Role × Host × Bool)
  needs : Needs

inductive Reply where
  | nothing
  | noSession
  | noHandle
  | flag (b : Bool)
  | count (n : Nat)
  | finished (r : Except Error Unit)
  | decided (r : Except Error Bool)
  | result (r : Except Error QueryResult)
  | replay (r : Carryover.Replay)
  | relaunched (r : Carryover.Replay)
  | role (r : Except Error Role)
  | health (h : Health)
  | properties (p : Properties)
  | synced (r : Except Error Unit) (p : Properties)
  | host (h : Option Host)
  | hosts (hs : List Host)
  | server (s : Option Server)
  | description (d : Description)
  | search (r : SearchReport)
  | size (n : Nat)

def Reply.ofAnswer : Answer → Reply
  | .result r => .result r
  | .finished r => .finished r
  | .replay r => .replay r

structure Frame where
  reply : Reply
  now : Nat
  sessions : List (String × Status)
  /-- By name and then by port. -/
  blacklist : List Endpoint
  /-- The statements that arrived during the step. -/
  executed : List (Endpoint × List String)
  /-- The connection attempts so far, where there were some during the step. -/
  attempts : List (Endpoint × Nat)

end Failover.Scenario
