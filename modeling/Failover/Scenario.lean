import Failover.Scenario.Connections
import Failover.Scenario.Sessions

/-!
Scenarios: steps taken one after another on a simulated cluster, with sessions and connections known
by name, and what can be seen after each step.
-/
namespace Failover.Scenario

namespace Stage

def perform (g : Stage) : Step → Reply × Stage
  | .advance ms => (.nothing, { g with machine := g.machine.advance Job.body ms })
  | .stop h => (.nothing, g.updateCluster (·.stop (g.resolve h).endpoint))
  | .start h => (.nothing, g.updateCluster (·.start (g.resolve h).endpoint))
  | .promote h => (.nothing, g.updateCluster (·.promote (g.resolve h).endpoint))
  | .demote h => (.nothing, g.updateCluster (·.demote (g.resolve h).endpoint))
  | .setVersion h version =>
    (.nothing, g.updateCluster (·.setVersion (g.resolve h).endpoint version))
  | .addHost h writable => (.nothing, g.addHost (g.resolve h) writable)
  | .server h => (.server (g.network.cluster.find? (g.resolve h).endpoint), g)
  | .disturb h c d =>
    (.nothing,
      if g.disturbed then g.updateNetwork (·.disturb (g.resolve h).endpoint c d) else g)
  | .connect name mode hosts options =>
    g.connect name (.ofHosts mode (g.resolveAll hosts)) options g.registry
  | .connectConfig name hosts config =>
    let config := config.withHosts (g.resolveAll hosts)
    match config.flaw? with
    | some f => (.finished (.error (.config (.validation f.message))), g)
    | none => g.connect name config.topology config.failover .processWide
  | .ask name a => g.ask name a
  | .describe name =>
    match g.sessions.lookup name with
    | none => (.noSession, g)
    | some i => (.description (g.describe i), g)
  | .grab session name => g.grab session name
  | .foundPrimary session handle => g.found session handle Act.foundPrimary
  | .foundSecondary session handle => g.found session handle Act.foundReplica
  | .drop name => g.drop name
  | .spawn id session a => g.spawn id session a
  | .join id => g.join id
  | .openConnection h name => g.openHandle (g.resolve h) name
  | .same source dest =>
    match g.handles.lookup source, g.handles.lookup dest with
    | some a, some b => (.flag (a == b), g)
    | _, _ => (.noHandle, g)
  | .sync source dest logged =>
    match g.handles.lookup source, g.handles.lookup dest with
    | some a, some b => g.sync a b logged
    | _, _ => (.noHandle, g)
  | .onHandle name s =>
    match g.handles.lookup name with
    | none => (.noHandle, g)
    | some h => g.onHandle name h s
  | .search mode hosts needs => g.search mode (g.resolveAll hosts) needs true
  | .searchPass mode hosts needs => g.search mode (g.resolveAll hosts) needs false
  | .blacklist s => g.onBlacklist s

/-- What is seen now, given what had been seen before. -/
def frame (reply : Reply) (g : Stage) : Frame :=
  let servers := g.network.cluster.servers
  let before (e : Endpoint) := (g.seen.lookup e).getD (0, 0)
  { reply
    now := g.machine.now
    sessions := g.sessions.map fun (name, i) => (name, .ofDesk (g.machine.state.desk i))
    blacklist := (g.blacklist.entries.map (·.1)).mergeSort fun a b =>
      decide (a.name < b.name) || (a.name == b.name && a.port ≤ b.port)
    executed := (servers.map fun (e, s) => (e, s.executed.drop (before e).1)).filter
      (!·.2.isEmpty)
    attempts := (servers.filter fun (e, s) => s.connectAttempts != (before e).2).map
      fun (e, s) => (e, s.connectAttempts) }

def markSeen (g : Stage) : Stage :=
  { g with
    seen := g.network.cluster.servers.map fun (e, s) =>
      (e, s.executed.length, s.connectAttempts) }

def take (g : Stage) (step : Step) : Frame × Stage :=
  let (reply, g) := g.perform step
  (g.frame reply, g.markSeen)

end Stage

def play (steps : List Step) (g : Stage) : List Frame :=
  match steps with
  | [] => []
  | step :: rest =>
    let (f, g) := g.take step
    f :: play rest g

end Failover.Scenario
