import Failover.Scenario.Stage

/-! What steps do without a session: with single connections, searches and the scenario's
blacklist. -/
namespace Failover.Scenario

namespace Stage

def openHandle (h : Host) (name : String) (g : Stage) : Reply × Stage :=
  match g.onNetwork (Calls.connect h) with
  | (.error e, g) => (.finished (.error e), g)
  | (.ok c, g) =>
    (.finished (.ok ()),
      { g with
        handles := bind name c g.handles
        plain := if g.disturbed then g.plain else name :: g.plain })

def properties (g : Stage) (h : Handle) : Properties := .ofConnection (g.network.connection h)

def sync (source dest : Handle) (logged : Bool) (g : Stage) : Reply × Stage :=
  let (r, g) := g.onNetwork (Carryover.sync source dest)
  (if logged then .properties (g.properties dest) else .synced r (g.properties dest), g)

def updateConnection (h : Handle) (f : Connection → Connection) (g : Stage) : Reply × Stage :=
  (.nothing, g.updateNetwork (·.updateConnection h f))

def answer {α : Type} (view : α → Reply) (r : NetRoutine Nat Job α) (g : Stage) : Reply × Stage :=
  let (a, g) := g.onNetwork r
  (view a, g)

def onHandle (name : String) (h : Handle) (g : Stage) : HandleStep → Reply × Stage
  | .properties => (.properties (g.properties h), g)
  | .ping => g.answer .decided (Calls.ping h)
  | .check => g.answer .decided (Calls.check h)
  | .query sql => g.answer .result (Calls.execute h sql)
  | .invoke op => g.answer .result (Calls.invoke h op)
  | .close => g.answer (fun _ => .nothing) (Calls.close h)
  | .beginTransaction =>
    if name ∈ g.plain then g.updateConnection h fun c => { c with inTransaction := true }
    else (.noHandle, g)
  | .setMaxRows n => g.updateConnection h fun c => { c with maxRows := n }
  | .setMaxPacket n => g.updateConnection h fun c => { c with maxAllowedPacket := n }
  | .setReadOnly readOnly => g.updateConnection h fun c => { c with readOnly := readOnly }
  | .setIsolation level => g.answer .finished (Calls.setIsolation h level)
  | .selectDatabase name => g.answer .finished (Calls.selectDatabase h name)
  | .versionAtLeast version => (.flag (g.network.versionAtLeast h version), g)
  | .tellReadOnly readOnly => g.answer .finished (Carryover.setReadOnly h readOnly)
  | .relaunch op => g.answer .relaunched (Carryover.relaunch (Calls.invoke h) op)
  | .role discovered => g.answer .role (Calls.role discovered h)
  | .health limit => g.answer .health (Health.ofPrimaryWithin (limit.getD Health.defaultLimit) h)

def search (mode : Mode) (hosts : List Host) (needs : Needs) (twoPass : Bool) (g : Stage) :
    Reply × Stage :=
  let p : Prober Network Nat Job := Search.prober mode g.registry
  let hosts := (Topology.ofHosts mode hosts).hosts
  let (o, g) := g.onNetwork <|
    if twoPass then Search.twoPass p (g.network.blacklist g.registry) hosts needs
    else Search.pass p hosts { needs }
  (.search
    { result := if twoPass then some o.result else none
      found := o.found.map fun (role, h) =>
        let c := g.network.connection h
        (role, c.host, c.closed)
      needs := o.needs }, g)

def blacklist (g : Stage) : Blacklist := g.network.blacklist g.registry

def updateBlacklist (f : Blacklist → Blacklist) (g : Stage) : Stage :=
  g.updateNetwork (·.updateBlacklist g.registry f)

def prune (time : Int) (lifetime : Nat) (g : Stage) : Reply × Stage :=
  (.count (g.blacklist.pruned time lifetime), g.updateBlacklist (·.prune time lifetime))

def onBlacklist (g : Stage) : BlacklistStep → Reply × Stage
  | .add h => (.nothing, g.updateBlacklist (·.add (g.resolve h).endpoint g.machine.now))
  | .addAt h time => (.nothing, g.updateBlacklist (·.add (g.resolve h).endpoint time))
  | .remove h =>
    let e := (g.resolve h).endpoint
    (.flag (g.blacklist.contains e), g.updateBlacklist (·.remove e))
  | .contains h => (.flag (g.blacklist.contains (g.resolve h).endpoint), g)
  | .prune lifetime => g.prune g.machine.now lifetime
  | .pruneAt time lifetime => g.prune time lifetime
  | .filter hosts => (.hosts (g.blacklist.keep (g.resolveAll hosts)), g)
  | .size => (.size g.blacklist.entries.length, g)
  | .clear => (.nothing, g.updateBlacklist fun _ => {})

end Stage
end Failover.Scenario
