import Failover.Scenario.Frame
import Failover.Scenario.Step
import Failover.World

/-! The stage on which a scenario is played: its machine, and the names its steps have given. -/
namespace Failover.Scenario

structure Setting where
  hosts : List (Host × Bool)
  draws : List Nat := []
  /-- The blacklist is the one that the process shares. -/
  sharesBlacklist : Bool := false
  /-- Connections can be disturbed. -/
  disturbed : Bool := false
  timer : Timer := .standard

structure Stage where
  machine : Machine World Nat Job
  hosts : List Host
  registry : Registry
  disturbed : Bool
  sessions : List (String × Nat) := []
  handles : List (String × Handle) := []
  /-- The names that stand for connections opened by a step and not disturbed. -/
  plain : List String := []
  /-- The tickets of the requests in the background. -/
  spawned : List (String × Nat) := []
  tickets : Nat := 0
  /-- Of each server, how many statements and attempts have been seen. -/
  seen : List (Endpoint × Nat × Nat) := []

def Setting.stage (s : Setting) : Stage :=
  { machine :=
      { state := { network := { draws := s.draws, cluster := .ofHosts s.hosts } }
        timer := s.timer }
    hosts := s.hosts.map (·.1)
    registry := if s.sharesBlacklist then .processWide else .own
    disturbed := s.disturbed }

def bind {α : Type} (name : String) (a : α) (names : List (String × α)) : List (String × α) :=
  (name, a) :: names.filter (·.1 ≠ name)

namespace Stage

def network (g : Stage) : Network := g.machine.state.network

def resolve (g : Stage) : HostRef → Host
  | .index i => g.hosts.getD i ⟨default, .unset⟩
  | .host h => h

def resolveAll (g : Stage) : Option (List HostRef) → List Host
  | none => g.hosts
  | some refs => refs.map g.resolve

def run {α : Type} (r : Routine World Nat Job α) (g : Stage) : α × Stage :=
  let (a, m) := g.machine.run Job.body r
  (a, { g with machine := m })

def onNetwork {α : Type} (r : NetRoutine Nat Job α) (g : Stage) : α × Stage :=
  g.run (World.onNetwork r)

def updateNetwork (f : Network → Network) (g : Stage) : Stage :=
  (g.onNetwork (Routine.change fun _ n => f n)).2

def updateCluster (f : Cluster → Cluster) (g : Stage) : Stage :=
  g.updateNetwork fun n => { n with cluster := f n.cluster }

/-- Adds a server. One that takes another's place has not been seen to do anything. -/
def addHost (h : Host) (writable : Bool) (g : Stage) : Stage :=
  let g := g.updateCluster (·.add h.endpoint writable)
  { g with
    hosts := if g.hosts.any (·.endpoint = h.endpoint) then g.hosts else g.hosts ++ [h]
    seen := g.seen.filter (·.1 ≠ h.endpoint) }

end Stage

end Failover.Scenario
