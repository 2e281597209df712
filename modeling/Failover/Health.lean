import Failover.Calls

/-! Is a connection alive, and does its server still take writes? -/
namespace Failover

inductive Health where
  | healthy
  | unhealthy (reason : String)
  | timeout
  deriving DecidableEq

namespace Health
variable {ℓ κ : Type}

def text : Health → String
  | healthy => "Healthy"
  | unhealthy reason => "Unhealthy: " ++ reason
  | timeout => "Timeout"

/-- A ping, and then the question whether the server takes writes: one that was demoted still
answers pings. -/
def ofPrimary (h : Handle) : NetRoutine ℓ κ Health := do
  match ← Calls.ping h with
  | .error e => return unhealthy e.message
  | .ok false => return unhealthy "ping failed"
  | .ok true =>
    match ← Calls.check h with
    | .error e => return unhealthy e.message
    | .ok false => return unhealthy "host no longer accepts writes"
    | .ok true => return healthy

def ofPrimaryWithin (limit : Nat) (h : Handle) : NetRoutine ℓ κ Health := do
  return ((← (ofPrimary h).within limit).getD timeout)

def defaultLimit : Nat := 5000

end Health
end Failover
