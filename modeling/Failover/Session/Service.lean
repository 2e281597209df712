import Failover.Config
import Failover.Session.Background
import Failover.Session.Routing

/-! What callers can ask of a session. -/
namespace Failover
namespace Act
open Carryover (Replay)

/-- Fills the slots for the first time. Without every role the session opens all the same, as long
as one was found, and the retry loop looks for the other. -/
def initialConnect : Act (Except Error Unit) :=
  Routine.locked () do
    let s ← session
    let o ← search (match s.policy with | .single => ⟨true, false⟩ | .replicated => ⟨true, true⟩)
    match o.result with
    | .ok _ => return .ok ()
    | .error e =>
      let s ← session
      if s.primary.isNone && s.secondary.isNone then return .error e
      else
        if o.needs.primary then
          discard markPrimary
          update fun s => { s with active := .secondary }
        if o.needs.replica then discard markSecondary
        armRetry retryPeriod
        return .ok ()

def connect : Act (Except Error Unit) := do
  let s ← session
  match s.options.flaw? with
  | some f => return .error (.config (.validation f.message))
  | none =>
    if s.topology.hosts.isEmpty then
      return .error (.config (.validation Config.Flaw.noHosts.message))
    else
      initialConnect.thenOk fun _ => do
        touchPing
        return .ok ()

def needsFailover (failed : Handle) (op : Option Operation) : Act Replay :=
  Routine.locked () (handleFailover failed op)

/-- Recovers from an error that a connection gave; where nothing was sent again the error stands. -/
def handleFailure (failed : Handle) (op : Option Operation) (e : Error) :
    Act (Except Error QueryResult) := do
  return (← needsFailover failed op).result e

/-- Counts a query, and has a reconnection started where one is due. -/
def prepare (op : Operation) : Act Unit := do
  if op.isQuery then updateOutage fun _ o => o.countQuery
  if (← session).policy = .replicated && (← shouldReconnect) then spawnReconnect

/-- Runs an operation on the serving connection, and recovers if that breaks. -/
def execute (op : Operation) : Act (Except Error QueryResult) := do
  prepare op
  match (← session).current with
  | none => return .error .noPrimaryAvailable
  | some h =>
    match ← invoke h op with
    | .ok r =>
      touchPing
      return .ok r
    | .error e => if e.isConnectivity then handleFailure h (some op) e else return .error e

def closeIfOpen (h : Handle) : Act Unit :=
  onNetwork (Routine.change fun _ n => if (n.connection h).closed then n else n.close h)

/-- Ends the loops, and closes both connections once no procedure is under way. A second call does
nothing. -/
def close : Act Unit := do
  let first ← Routine.transact fun _ d =>
    (!d.session.closed, { d with session := { d.session with closed := true } })
  if first then
    updateNow Session.cancelLoops
    Routine.locked () do
      let s ← session
      update fun s => { s with primary := none, secondary := none }
      s.primary.forM closeIfOpen
      s.secondary.forM closeIfOpen

end Act

inductive Request where
  | execute (op : Operation)
  | switchReadOnly (readOnly : Bool)
  | reconnect
  | needsFailover (failed : Handle) (op : Option Operation)
  | handleFailure (failed : Handle) (op : Option Operation) (e : Error)
  | close

inductive Answer where
  | result (r : Except Error QueryResult)
  | finished (r : Except Error Unit)
  | replay (r : Carryover.Replay)

def Request.serve : Request → Act Answer
  | .execute op => return .result (← Act.execute op)
  | .switchReadOnly readOnly =>
    return .finished (← Routine.locked () (Act.switchReadOnly readOnly))
  | .reconnect => return .finished (← Routine.locked () Act.reconnect)
  | .needsFailover failed op => return .replay (← Act.needsFailover failed op)
  | .handleFailure failed op e => return .result (← Act.handleFailure failed op e)
  | .close => do
    Act.close
    return .finished (.ok ())

end Failover
