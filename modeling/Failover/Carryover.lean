import Failover.Calls

/-!
What moves along when a session changes its connection: the session's settings, the read-only
request, and the operation that broke.
-/
namespace Failover.Carryover
variable {ℓ κ : Type}

/-- Gives `dest` the settings of `source`, as far as they differ from what a new connection has. -/
def sync (source dest : Handle) : NetRoutine ℓ κ (Except Error Unit) := do
  Routine.change fun _ n =>
    let c := n.connection source
    n.updateConnection dest fun t =>
      { t with maxAllowedPacket := c.maxAllowedPacket, maxRows := c.maxRows }
  let isolation ← Routine.read fun _ n => (n.connection source).isolation
  (Routine.onSome isolation (Calls.setIsolation dest)).thenOk fun _ => do
  let database ← Routine.read fun _ n => (n.connection source).database
  (Routine.onSome (database.filter (· ≠ "")) (Calls.selectDatabase dest)).thenOk fun _ => do
  let (wanted, present) ← Routine.read fun _ n =>
    ((n.connection source).autocommit, (n.connection dest).autocommit)
  if wanted = present then return .ok ()
  else (Calls.execute dest (autocommitStatement wanted)).thenOk fun _ => return .ok ()

def setReadOnly (h : Handle) (readOnly : Bool) : NetRoutine ℓ κ (Except Error Unit) := do
  if ← Routine.read fun _ n => n.versionAtLeast h (10, 0, 0) then
    (Calls.execute h (readOnlyStatement readOnly)).thenOk fun _ => return .ok ()
  else return .ok ()

/-- What became of an operation whose connection broke. -/
inductive Replay where
  /-- It ran again, with this result. -/
  | replayed (result : Except Error QueryResult)
  /-- There is a connection, but the operation was not sent again. -/
  | notReplayed
  /-- No connection took over. -/
  | unrecovered

def Replay.result (cause : Error) : Replay → Except Error QueryResult
  | .replayed result => result
  | .notReplayed | .unrecovered => .error cause

def Replay.isReplayed : Replay → Bool
  | .replayed _ => true
  | _ => false

/-- Sends an operation again, unless it must not be sent twice. -/
def relaunch {σ : Type} (send : Operation → Routine σ ℓ κ (Except Error QueryResult))
    (operation : Option Operation) : Routine σ ℓ κ Replay :=
  match operation.filter (·.isReplayable) with
  | none => return .notReplayed
  | some op => do
    let result ← send op
    match result with
    | .error e => return if e.isConnectivity then .unrecovered else .replayed result
    | .ok _ => return .replayed result

end Failover.Carryover
