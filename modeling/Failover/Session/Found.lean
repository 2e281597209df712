import Failover.Search
import Failover.Session.Act

/-! Connections that a search hands over: they get the session's settings and take a slot. -/
namespace Failover.Act

def foundPrimarySingle (h : Handle) : Act Unit := do
  let s ← session
  s.primary.forM fun old => trySync old h
  if s.outage.readOnlyRequested then
    onNetwork (Routine.change fun _ n => n.updateConnection h fun c => { c with readOnly := true })
    discard (onNetwork (Carryover.setReadOnly h true))
  update fun s =>
    { s with primary := some h, active := .primary, outage := s.outage.resetPrimary }
  retire s.primary h

/-- A session that was not asked to be read-only moves to the new primary. -/
def foundPrimaryReplicated (h : Handle) : Act Unit := do
  let s ← session
  let moves := !s.outage.readOnlyRequested
  if moves then s.current.forM fun c => trySync c h
  update fun s =>
    { s with
      primary := some h
      active := if moves then .primary else s.active
      outage := s.outage.resetPrimary }
  retire s.primary h

/-- A session that wants to read only, or has no primary, moves to the new replica. -/
def foundReplicaReplicated (h : Handle) : Act Unit := do
  let s ← session
  let moves := s.outage.readOnlyRequested || s.outage.primaryFailed
  if moves then s.current.forM fun c => trySync c h
  update fun s =>
    { s with
      secondary := some h
      active := if moves then .secondary else s.active
      outage := s.outage.resetSecondary }
  retire s.secondary h

def foundPrimary (h : Handle) : Act Unit := do
  match (← session).policy with
  | .single => foundPrimarySingle h
  | .replicated => foundPrimaryReplicated h

def foundReplica (h : Handle) : Act Unit := do
  match (← session).policy with
  | .single => onNetwork (Calls.close h)
  | .replicated => foundReplicaReplicated h

def found : Role → Handle → Act Unit
  | .primary, h => foundPrimary h
  | _, h => foundReplica h

def prober (s : Session) : Prober Desk Unit Errand :=
  let p : Prober Network Unit Errand := Search.prober s.topology.mode s.registry
  { draw := fun size => onNetwork (p.draw size)
    connect := fun h => do
      note (.connect h)
      onNetwork (p.connect h)
    role := fun c => onNetwork (p.role c)
    close := fun c => onNetwork (p.close c)
    exclude := fun h => onNetwork (p.exclude h)
    found := found }

/-- Lets stale exclusions lapse and searches for the roles. -/
def search (needs : Needs) : Act Search.Outcome := do
  note (.search needs)
  Routine.change fun now d =>
    { d with
      network := d.network.updateBlacklist d.session.registry
        (·.prune now (millis d.session.options.blacklistTimeoutSec)) }
  let s ← session
  let b ← Routine.read fun _ d => d.network.blacklist s.registry
  Search.twoPass (prober s) b s.topology.hosts needs

def seek (needs : Needs) : Act (Except Error Unit) := do
  if needs.satisfied then return .ok () else return (← search needs).result

def reconnectSingle : Act (Except Error Unit) := do
  updateOutage Outage.recordAttempt
  seek ⟨true, false⟩

/-- Records an attempt and searches for the failed roles, unless the budget is spent. -/
def reconnectReplicated : Act (Except Error Unit) := do
  updateOutage Outage.recordAttempt
  let s ← session
  if s.options.retriesAllDown ≤ s.outage.attempts then
    return .error (.tooManyAttempts s.outage.attempts)
  else seek ⟨s.outage.primaryFailed, s.outage.secondaryFailed⟩

def reconnect : Act (Except Error Unit) := do
  match (← session).policy with
  | .single => reconnectSingle
  | .replicated => reconnectReplicated

end Failover.Act
