import Failover.Network
import Failover.Outage
import Failover.Repeater

/-!
A session: the connections of one caller, which of them serves, and what is remembered of failures.
-/
namespace Failover

inductive Policy where
  | single
  | replicated
  deriving DecidableEq

def Mode.policy (m : Mode) : Policy := if m.hasReplicas then .replicated else .single

inductive Active where
  | primary
  | secondary
  deriving DecidableEq

def Active.text : Active → String
  | .primary => "primary"
  | .secondary => "secondary"

/-- What a session does that others can notice: searches, connections that it tries to open,
settings that it carries over, and operations that it sends. -/
inductive Deed where
  | search (needs : Needs)
  | connect (host : Host)
  | sync (source dest : Handle)
  | invoke (h : Handle) (op : Operation)
  deriving DecidableEq

structure Session where
  topology : Topology
  options : Options
  /-- The blacklist it shares. -/
  registry : Registry
  outage : Outage := {}
  primary : Option Handle := none
  secondary : Option Handle := none
  active : Active := .primary
  /-- Looks for failed roles. -/
  retryLoop : Repeater := {}
  /-- Checks an idle primary. -/
  pingLoop : Repeater := {}
  /-- A reconnection in the background is under way. -/
  reconnecting : Bool := false
  closed : Bool := false
  /-- The caller and the tasks that still work for the session; without any, its loops end. -/
  users : Nat := 1
  /-- Its deeds, the latest first. -/
  journal : List Deed := []

instance : Inhabited Session := ⟨{ topology := ⟨.masterOnly, []⟩, options := {}, registry := .own }⟩

namespace Session

def policy (s : Session) : Policy := s.topology.mode.policy

def current (s : Session) : Option Handle :=
  match s.active with
  | .primary => s.primary
  | .secondary => s.secondary

def isReadOnly (s : Session) : Bool :=
  match s.policy with
  | .single => s.outage.readOnlyRequested
  | .replicated => s.active == .secondary

def cancelLoops (now : Nat) (s : Session) : Session :=
  { s with retryLoop := s.retryLoop.cancel now, pingLoop := s.pingLoop.cancel now }

def exhausted (s : Session) : Bool :=
  match s.policy with
  | .single => s.outage.singleExhausted s.options
  | .replicated => s.outage.replicatedExhausted s.options

def leave (now : Nat) (s : Session) : Session :=
  let s := { s with users := s.users - 1 }
  if s.users = 0 then s.cancelLoops now else s

end Session

structure Desk where
  session : Session
  network : Network

namespace Desk

def inTransaction (d : Desk) : Bool :=
  d.session.current.any fun h => (d.network.connection h).inTransaction

def shouldReconnect (now : Nat) (d : Desk) : Bool :=
  match d.session.policy with
  | .single => d.session.outage.shouldReconnectSingle d.session.options
  | .replicated =>
    d.session.outage.shouldReconnectReplicated now d.session.options d.inTransaction

end Desk

end Failover
