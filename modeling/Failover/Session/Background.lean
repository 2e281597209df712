import Failover.Health
import Failover.Session.Recovery

/-! What goes on in the background: the retry loop, the ping loop, and single reconnections. -/
namespace Failover
namespace Act

/-- Ends the retry loop while the lock is still held, so that a failure right after can arm it. -/
def stopRetry : Act Bool := do
  updateNow fun now s => { s with retryLoop := s.retryLoop.cancel now }
  return false

def retryAgain : Act Bool := do
  if (← session).exhausted then stopRetry else return true

def retryTick : Act Bool :=
  Routine.locked () do
    let s ← session
    if s.closed || !s.outage.anyFailed then stopRetry
    else if ← shouldReconnect then
      match ← reconnect with
      | .ok _ => stopRetry
      | .error _ => retryAgain
    else retryAgain

def pingLimit (s : Session) : Nat := s.options.idleTimeout?.getD Health.defaultLimit

/-- Checks a primary that is not known to be failed, and recovers if it is unfit. -/
def checkPrimary (s : Session) : Act Unit := do
  match s.outage.primaryFailed, s.primary with
  | false, some p =>
    match ← onNetwork (Health.ofPrimaryWithin (pingLimit s) p) with
    | .healthy => return ()
    | _ =>
      failPrimary p
      discard (primaryFailReplicated none false)
  | _, _ => return ()

def pingTick : Act Bool :=
  Routine.locked () do
    let s ← session
    if s.closed then return false
    else
      checkPrimary s
      return true

def reconnectInBackground : Act Unit := do
  Routine.locked () do
    if !(← session).closed && (← shouldReconnect) then discard reconnect
  update fun s => { s with reconnecting := false }
  updateNow Session.leave

def spawnReconnect : Act Unit := do
  let fresh ← Routine.transact fun _ d =>
    if d.session.reconnecting then (false, d)
    else
      (true,
        { d with session := { d.session with reconnecting := true, users := d.session.users + 1 } })
  if fresh then Routine.spawn .reconnect

/-- Work by one more user, as long as the session has one; without any the work is to stop. -/
def whileUsed (r : Act Bool) : Act Bool := do
  if (← session).users = 0 then return false else attended r

/-- What decides when a round of a loop and its end come at one instant. -/
def drawLot : Act Bool := onNetwork (Routine.transact fun _ n => n.drawLot)

end Act

def Errand.body : Errand → Act (Option Errand)
  | .reconnect => do
    Act.reconnectInBackground
    return none
  | .retry g delay =>
    Repeater.round (·.session.retryLoop)
      (fun r d => { d with session := { d.session with retryLoop := r } }) Act.drawLot g delay
      (Act.whileUsed Act.retryTick) (.retry g Act.retryPeriod)
  | .ping g delay =>
    Repeater.round (·.session.pingLoop)
      (fun r d => { d with session := { d.session with pingLoop := r } }) Act.drawLot g delay
      (Act.whileUsed Act.pingTick) (.ping g delay)

end Failover
