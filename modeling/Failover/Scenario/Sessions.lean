import Failover.Scenario.Stage

/-! What steps do with sessions: opening them, calling them in the foreground or the background, and
letting go of them. -/
namespace Failover.Scenario

namespace Stage

def connect (name : String) (topology : Topology) (options : Options) (registry : Registry)
    (g : Stage) : Reply × Stage :=
  let i := g.machine.state.sessions.size
  let (r, g) := g.run do
    Routine.change fun _ (w : World) =>
      { w with sessions := w.sessions.push { topology, options, registry } }
    World.onSession i Act.connect
  match r with
  | .error e => (.finished (.error e), g)
  | .ok _ =>
    let g := match g.sessions.lookup name with
      | none => g
      | some old => (g.run (World.onSession old (Act.updateNow Session.leave))).2
    (.finished (.ok ()), { g with sessions := bind name i g.sessions })

def request (g : Stage) : Ask → Except Reply Request
  | .execute op => .ok (.execute op)
  | .switchReadOnly readOnly => .ok (.switchReadOnly readOnly)
  | .reconnect => .ok .reconnect
  | .needsFailover h op =>
    match g.handles.lookup h with
    | none => .error .noHandle
    | some h => .ok (.needsFailover h op)
  | .handleFailure h op e =>
    match g.handles.lookup h with
    | none => .error .noHandle
    | some h => .ok (.handleFailure h op e)
  | .close => .ok .close

def target (g : Stage) (name : String) (a : Ask) : Except Reply (Nat × Request) :=
  match g.sessions.lookup name with
  | none => .error .noSession
  | some i => (g.request a).map (i, ·)

def ask (name : String) (a : Ask) (g : Stage) : Reply × Stage :=
  match g.target name a with
  | .error r => (r, g)
  | .ok (i, r) =>
    let (answer, g) := g.run (World.onSession i r.serve)
    (.ofAnswer answer, g)

def spawn (id name : String) (a : Ask) (g : Stage) : Reply × Stage :=
  match g.target name a with
  | .error r => (r, g)
  | .ok (i, r) =>
    let ticket := g.tickets
    let (_, g) := g.run do
      World.onSession i (Act.update fun s => { s with users := s.users + 1 })
      Routine.spawn (.request ticket i r)
    (.nothing, { g with tickets := ticket + 1, spawned := bind id ticket g.spawned })

def join (id : String) (g : Stage) : Reply × Stage :=
  match g.spawned.lookup id with
  | none => (.nothing, g)
  | some ticket =>
    let m := g.machine.passUntilHolds Job.body fun m => (m.state.answers.lookup ticket).isSome
    ((m.state.answers.lookup ticket).elim .nothing .ofAnswer, { g with machine := m })

def describe (g : Stage) (i : Nat) : Description :=
  let d := g.machine.state.desk i
  let s := d.session
  { topology := s.topology
    policy := s.policy
    options := s.options
    shouldReconnect := d.shouldReconnect g.machine.now
    isReadOnly := s.isReadOnly
    blacklisted := (d.network.blacklist s.registry).entries.length }

/-- Hands a connection to a session as if a search had found it. -/
def found (name handle : String) (install : Handle → Act Unit) (g : Stage) : Reply × Stage :=
  match g.sessions.lookup name, g.handles.lookup handle with
  | none, _ => (.noSession, g)
  | _, none => (.noHandle, g)
  | some i, some h =>
    (.nothing, (g.run (World.onSession i (Routine.locked () (install h)))).2)

def drop (name : String) (g : Stage) : Reply × Stage :=
  match g.sessions.lookup name with
  | none => (.flag false, g)
  | some i =>
    let (_, g) := g.run (World.onSession i (Act.updateNow Session.leave))
    (.flag true, { g with sessions := g.sessions.filter (·.1 ≠ name) })

def grab (session name : String) (g : Stage) : Reply × Stage :=
  match g.sessions.lookup session with
  | none => (.noSession, g)
  | some i =>
    match (g.machine.state.session i).current with
    | none => (.host none, g)
    | some h =>
      (.host (some (g.network.connection h).host),
        { g with handles := bind name h g.handles, plain := g.plain.filter (· ≠ name) })

end Stage
end Failover.Scenario
