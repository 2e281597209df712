import Failover.Carryover
import Failover.Session

/-! Work of one session, and the steps that all of a session's procedures are made of. -/
namespace Failover

inductive Errand where
  | reconnect
  /-- A round of the retry loop: its arming and the wait before it. -/
  | retry (generation delay : Nat)
  /-- A round of the ping loop: its arming and the wait before it. -/
  | ping (generation delay : Nat)
  deriving DecidableEq

/-- Work of one session. Its one lock is held throughout every procedure that may change the
connections. -/
abbrev Act (α : Type) := Routine Desk Unit Errand α

namespace Act

def session : Act Session := Routine.read fun _ d => d.session

def update (f : Session → Session) : Act Unit :=
  Routine.change fun _ d => { d with session := f d.session }

def updateNow (f : Nat → Session → Session) : Act Unit :=
  Routine.change fun now d => { d with session := f now d.session }

def onNetwork {α : Type} (r : NetRoutine Unit Errand α) : Act α :=
  r.embed Desk.network (fun n d => { d with network := n }) id id

def updateOutage (f : Nat → Outage → Outage) : Act Unit :=
  Routine.change fun now d =>
    { d with session := { d.session with outage := f now d.session.outage } }

def updateBlacklist (f : Nat → Endpoint → Blacklist → Blacklist) (h : Handle) : Act Unit :=
  Routine.change fun now d =>
    { d with
      network := d.network.updateBlacklist d.session.registry
        (f now (d.network.connection h).host.endpoint) }

def exclude : Handle → Act Unit := updateBlacklist fun now e b => b.add e now

def readmit : Handle → Act Unit := updateBlacklist fun _ e b => b.remove e

def markPrimary : Act Bool :=
  Routine.transact fun now d =>
    (!d.session.outage.primaryFailed,
      { d with session := { d.session with outage := d.session.outage.markPrimary now } })

def markSecondary : Act Bool :=
  Routine.transact fun now d =>
    (!d.session.outage.secondaryFailed,
      { d with session := { d.session with outage := d.session.outage.markSecondary now } })

def failPrimary (h : Handle) : Act Unit := do
  if ← markPrimary then exclude h

def failSecondary (h : Handle) : Act Unit := do
  if ← markSecondary then exclude h

def primaryRecovered (h : Handle) : Act Unit := do
  updateOutage fun _ o => o.resetPrimary
  readmit h

def secondaryRecovered (h : Handle) : Act Unit := do
  updateOutage fun _ o => o.resetSecondary
  readmit h

def inTransaction (h : Option Handle) : Act Bool :=
  Routine.read fun _ d => h.any fun h => (d.network.connection h).inTransaction

def shouldReconnect : Act Bool := Routine.read fun now d => d.shouldReconnect now

def answering : Option Handle → Act (Option Handle)
  | none => return none
  | some h => do
    match ← onNetwork (Calls.ping h) with
    | .ok true => return some h
    | _ => return none

def retire (old : Option Handle) (h : Handle) : Act Unit :=
  (old.filter (· ≠ h)).forM fun h => onNetwork (Calls.close h)

def note (d : Deed) : Act Unit := update fun s => { s with journal := d :: s.journal }

def invoke (h : Handle) (op : Operation) : Act (Except Error QueryResult) := do
  note (.invoke h op)
  onNetwork (Calls.invoke h op)

def sync (source dest : Handle) : Act (Except Error Unit) := do
  note (.sync source dest)
  onNetwork (Carryover.sync source dest)

def trySync (source dest : Handle) : Act Unit := discard (sync source dest)

def relaunch (op : Option Operation) (h : Handle) : Act Carryover.Replay :=
  Carryover.relaunch (invoke h) op

def relaunchOnCurrent (op : Option Operation) : Act Carryover.Replay := do
  match (← session).current with
  | some h => relaunch op h
  | none => return .unrecovered

def retryPeriod : Nat := 250

def armRetry (delay : Nat) : Act Unit := do
  let armed ← Routine.transact fun _ d =>
    match if d.session.closed then none else d.session.retryLoop.arm? with
    | none => (none, d)
    | some r => (some r.generation, { d with session := { d.session with retryLoop := r } })
  armed.forM fun g => Routine.spawn (.retry g delay)

def touchPing : Act Unit := do
  let armed ← Routine.transact fun now d =>
    let s := d.session
    match if s.policy = .replicated ∧ s.closed = false then s.options.idleTimeout? else none with
    | none => (none, d)
    | some idle =>
      let r := s.pingLoop.restart now
      (some (r.generation, idle), { d with session := { s with pingLoop := r } })
  armed.forM fun (g, idle) => Routine.spawn (.ping g idle)

def attended {α : Type} (r : Act α) : Act α := do
  update fun s => { s with users := s.users + 1 }
  let a ← r
  updateNow Session.leave
  return a

end Act

end Failover
