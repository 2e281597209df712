import Failover.Session.Found

/-! Read-only requests: a replica serves them where there is one. The session's lock is held. -/
namespace Failover.Act

/-- The one connection is told, and the request is remembered for those that come after it. -/
def switchSingle (readOnly : Bool) : Act (Except Error Unit) := do
  let s ← session
  let busy ← inTransaction s.primary
  if s.primary.isSome && readOnly != s.outage.readOnlyRequested && busy then
    return .error .inTransaction
  else
    (Routine.onSome s.primary fun h =>
      (onNetwork (Carryover.setReadOnly h readOnly)).thenOk fun _ => do
        onNetwork (Routine.change fun _ n =>
          n.updateConnection h fun c => { c with readOnly := readOnly })
        return .ok ()).thenOk fun _ => do
    updateOutage fun _ o => o.setReadOnly readOnly
    return .ok ()

/-- Moves from the primary to a good secondary; where there is none the session stays. -/
def moveToSecondary (s : Session) : Act (Except Error Unit) := do
  match s.active, s.outage.secondaryFailed, s.secondary with
  | .primary, false, some h =>
    (Routine.onSome s.primary fun p => sync p h).thenOk fun _ => do
    update fun s => { s with active := .secondary }
    onNetwork (Carryover.setReadOnly h true)
  | _, _, _ => return .ok ()

/-- Looks for a primary where that is wanted; else the retry loop has to. -/
def awaitPrimary : Act (Except Error Unit) := do
  let giveUp : Act (Except Error Unit) := do
    armRetry retryPeriod
    return .error .noPrimaryAvailable
  if (← session).options.autoReconnect then
    match ← reconnectReplicated with
    | .ok _ => return .ok ()
    | .error _ => if (← session).active = .primary then return .ok () else giveUp
  else giveUp

/-- Moves from the secondary to a good primary, or to one that can be found. -/
def moveToPrimary (s : Session) : Act (Except Error Unit) := do
  match s.active, s.outage.primaryFailed, s.primary with
  | .primary, _, _ => return .ok ()
  | .secondary, false, some p =>
    (Routine.onSome s.secondary fun h => sync h p).thenOk fun _ => do
    update fun s => { s with active := .primary }
    return .ok ()
  | .secondary, _, _ => awaitPrimary

def switchReplicated (readOnly : Bool) : Act (Except Error Unit) := do
  let s ← session
  if readOnly = s.outage.readOnlyRequested then return .ok ()
  else if ← inTransaction s.current then return .error .inTransaction
  else
    updateOutage fun _ o => o.setReadOnly readOnly
    if readOnly then moveToSecondary s else moveToPrimary s

def switchReadOnly (readOnly : Bool) : Act (Except Error Unit) := do
  match (← session).policy with
  | .single => switchSingle readOnly
  | .replicated => switchReplicated readOnly

end Failover.Act
