import Failover.Session.Found

/-! What a session does when an operation breaks its connection. The session's lock is held. -/
namespace Failover.Act
open Carryover (Replay)

def giveUp : Act Replay := do
  armRetry 0
  return .unrecovered

def carryOn (op : Option Operation) (h : Handle) : Act Replay := do
  armRetry 0
  relaunch op h

def turnTo (slot : Active) (left : Option Handle) (h : Handle) : Act Unit := do
  left.forM fun c => trySync c h
  update fun s => { s with active := slot }

def searchSingle (op : Option Operation) (failed : Option Handle) : Act Replay := do
  if ← inTransaction failed then giveUp
  else
    match ← reconnectSingle with
    | .ok _ => relaunchOnCurrent op
    | .error _ => giveUp

/-- Looks for another primary at once, where that is wanted and nothing stands against it, and
leaves the rest to the retry loop. -/
def replaceSingle (op : Option Operation) (failed : Option Handle) : Act Replay := do
  let s ← session
  if s.options.autoReconnect && s.outage.shouldReconnectSingle s.options then
    if s.topology.isSingleHost && decide (0 < s.outage.attempts) then
      Routine.pause (millis s.options.initialTimeoutSec)
    searchSingle op failed
  else giveUp

def primaryFailSingle (op : Option Operation) : Act Replay := do
  let primary := (← session).primary
  match ← answering primary with
  | some h =>
    primaryRecovered h
    relaunch op h
  | none =>
    primary.forM failPrimary
    replaceSingle op primary

/-- Moves to the secondary if it is good, and leaves the rest to the retry loop. -/
def fallBackToSecondary (op : Option Operation) (failed : Option Handle) : Act Replay := do
  let s ← session
  if s.outage.secondaryFailed then giveUp
  else
    match s.secondary with
    | none => giveUp
    | some h =>
      match ← onNetwork (Calls.ping h) with
      | .ok true =>
        if s.active = .primary then turnTo .secondary failed h
        carryOn op h
      | .ok false => giveUp
      | .error _ =>
        failSecondary h
        giveUp

/-- After the primary is known to be gone: a new one at once where that is wanted, else the
secondary. -/
def replacePrimary (op : Option Operation) (failed : Option Handle) : Act Replay := do
  if (← session).options.autoReconnect && !(← inTransaction failed) then
    discard reconnectReplicated
    if (← session).outage.primaryFailed then fallBackToSecondary op failed
    else relaunchOnCurrent op
  else fallBackToSecondary op failed

/-- A failure of the primary. With `probe` a primary that answers a ping is kept. -/
def primaryFailReplicated (op : Option Operation) (probe : Bool) : Act Replay := do
  let primary := (← session).primary
  match ← answering (if probe then primary else none) with
  | some h =>
    primaryRecovered h
    relaunchOnCurrent op
  | none =>
    primary.forM failPrimary
    replacePrimary op primary

/-- Looks for the failed roles at once where that is wanted; a secondary may have been found even
where the primary is still missing. -/
def replaceSecondary (op : Option Operation) : Act Replay := do
  if (← session).options.autoReconnect then
    discard reconnectReplicated
    let o := (← session).outage
    if o.anyFailed then armRetry retryPeriod
    if o.secondaryFailed then return .unrecovered else relaunchOnCurrent op
  else giveUp

/-- A failure of the secondary: the secondary itself if it answers, else the primary if it is good,
else a search. -/
def secondaryFailReplicated (op : Option Operation) : Act Replay := do
  let s ← session
  match ← answering s.secondary with
  | some h =>
    secondaryRecovered h
    relaunchOnCurrent op
  | none =>
    s.secondary.forM failSecondary
    if (← session).outage.primaryFailed then replaceSecondary op
    else
      match s.primary with
      | none => replaceSecondary op
      | some p =>
        match ← onNetwork (Calls.ping p) with
        | .ok true =>
          turnTo .primary s.secondary p
          carryOn op p
        | .ok false => replaceSecondary op
        | .error _ =>
          failPrimary p
          replaceSecondary op

/-- Records the failure of the primary. A query that breaks it is the first that counts. -/
def recordFailure (failed : Handle) (op : Option Operation) : Act Unit := do
  if ← markPrimary then
    if op.any (·.isQuery) then updateOutage fun _ o => o.countQuery
    exclude failed

/-- Records the failure of the serving connection, and recovers as the policy says. -/
def recover (failed : Handle) (op : Option Operation) : Act Replay := do
  let s ← session
  match s.active with
  | .primary =>
    recordFailure failed op
    match s.policy with
    | .single => primaryFailSingle op
    | .replicated => primaryFailReplicated op true
  | .secondary =>
    failSecondary failed
    match s.policy with
    | .single => return .unrecovered
    | .replicated => secondaryFailReplicated op

/-- Handles an operation that broke on a connection. If another connection serves by now, the
operation is sent there. -/
def handleFailover (failed : Handle) (op : Option Operation) : Act Replay := do
  match (← session).current with
  | none => return .unrecovered
  | some h => if h = failed then recover failed op else relaunch op h

end Failover.Act
