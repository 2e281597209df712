import Failover.Network
import Failover.Routine

/-! Calls over connections, as routines that may be delayed and may meet trouble. -/
namespace Failover

abbrev NetRoutine (ℓ κ α : Type) := Routine Network ℓ κ α

def Routine.thenOk {σ ℓ κ α β : Type} (r : Routine σ ℓ κ (Except Error α))
    (f : α → Routine σ ℓ κ (Except Error β)) : Routine σ ℓ κ (Except Error β) := do
  match ← r with
  | .error e => return .error e
  | .ok a => f a

def Routine.onSome {σ ℓ κ β : Type} (o : Option β) (f : β → Routine σ ℓ κ (Except Error Unit)) :
    Routine σ ℓ κ (Except Error Unit) :=
  match o with
  | none => .done (.ok ())
  | some b => f b

namespace Calls
variable {ℓ κ : Type}

/-- A call on a host. The delay comes first, then the trouble, and the call itself where there is
none; a refusal stands for the call only where the call has a no to answer with. -/
def onHost {α : Type} (c : Call) (host : Host) (no : Option α)
    (real : Network → Except Error α × Network) : NetRoutine ℓ κ (Except Error α) := do
  let (delay, trouble) ← Routine.transact fun _ n => n.meet host.endpoint c
  Routine.pause delay
  match trouble, no with
  | some .io, _ => return .error (.io "broken pipe")
  | some .connectivity, _ => return .error (.connectivity host.text (c.text ++ " fault"))
  | some .query, _ => return .error (.query (c.text ++ " fault"))
  | some .refusal, some answer => return .ok answer
  | _, _ => Routine.transact fun _ n => real n

def onHandle {α : Type} (c : Call) (h : Handle) (no : Option α)
    (real : Network → Except Error α × Network) : NetRoutine ℓ κ (Except Error α) := do
  onHost c (← Routine.read fun _ n => (n.connection h).host) no real

def connect (host : Host) : NetRoutine ℓ κ (Except Error Handle) :=
  onHost .connect host none (·.connect host)

def ping (h : Handle) : NetRoutine ℓ κ (Except Error Bool) :=
  onHandle .ping h (some false) (·.ping h)

def check (h : Handle) : NetRoutine ℓ κ (Except Error Bool) :=
  onHandle .check h (some false) (·.check h)

def execute (h : Handle) (sql : String) : NetRoutine ℓ κ (Except Error QueryResult) :=
  onHandle .exec h none (·.execute h sql)

def setIsolation (h : Handle) (level : Isolation) : NetRoutine ℓ κ (Except Error Unit) :=
  onHandle .isolation h none (·.setIsolation h level)

def selectDatabase (h : Handle) (name : String) : NetRoutine ℓ κ (Except Error Unit) :=
  onHandle .database h none (·.selectDatabase h name)

def close (h : Handle) : NetRoutine ℓ κ Unit := Routine.change fun _ n => n.close h

def role (discovered : Bool) (h : Handle) : NetRoutine ℓ κ (Except Error Role) :=
  (if discovered then check h
    else Routine.read fun _ n => .ok (n.connection h).isPrimary).thenOk fun primary =>
  return .ok (if primary then .primary else .replica)

/-- Adds the result of one statement of a batch to the results before it: rows affected add up, and
the last table returned is the batch's. -/
def combine (total r : QueryResult) : QueryResult :=
  { columns := if r.columns.isEmpty then total.columns else r.columns
    rows := if r.columns.isEmpty then total.rows else r.rows
    affectedRows := total.affectedRows + r.affectedRows }

def executeAll (h : Handle) : List String → QueryResult → NetRoutine ℓ κ (Except Error QueryResult)
  | [], total => return .ok total
  | sql :: rest, total => (execute h sql).thenOk fun r => executeAll h rest (combine total r)

def invoke (h : Handle) : Operation → NetRoutine ℓ κ (Except Error QueryResult)
  | .query sql => execute h sql
  | .batch statements => executeAll h statements .empty
  | .selectDatabase name => (selectDatabase h name).thenOk fun _ => return .ok .empty
  | .setAutocommit enabled => execute h (autocommitStatement enabled)
  | .setIsolation level => (setIsolation h level).thenOk fun _ => return .ok .empty
  | .setMaxRows max => do
    Routine.change fun _ n => n.updateConnection h fun c => { c with maxRows := max }
    return .ok .empty

end Calls
end Failover
