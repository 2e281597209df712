import Failover.Calls

/-!
The search for hosts that serve the needed roles. Candidates are tried in random order, those that
are not left out first; a host that cannot be reached, or cannot say what it serves, is left out
from then on.
-/
namespace Failover

namespace Needs

def satisfied (n : Needs) : Bool := !n.primary && !n.replica

def wants (n : Needs) : Role → Bool
  | .primary => n.primary
  | .replica => n.replica
  | .unset => false

def accepts (n : Needs) (h : Host) : Bool :=
  (n.primary && h.mayBePrimary) || (n.replica && h.mayBeReplica)

def clear (n : Needs) : Role → Needs
  | .primary => { n with primary := false }
  | .replica => { n with replica := false }
  | .unset => n

end Needs

/-- What a search needs to be able to do. -/
structure Prober (σ ℓ κ : Type) where
  /-- A number below the given size. -/
  draw : Nat → Routine σ ℓ κ Nat
  connect : Host → Routine σ ℓ κ (Except Error Handle)
  role : Handle → Routine σ ℓ κ (Except Error Role)
  close : Handle → Routine σ ℓ κ Unit
  /-- Leaves a host out of later searches. -/
  exclude : Host → Routine σ ℓ κ Unit
  /-- Takes over a connection whose role is needed. -/
  found : Role → Handle → Routine σ ℓ κ Unit

namespace Search
variable {σ ℓ κ α : Type}

/-- Takes the element at `i` out of a pool; the pool's last element moves into its place. -/
def swapRemove (i : Nat) (pool : List α) : Option (α × List α) :=
  match pool[i]?, pool.getLast? with
  | some h, some last => some (h, (pool.set i last).dropLast)
  | _, _ => none

theorem length_swapRemove {i : Nat} {pool : List α} {h : α} {rest : List α}
    (he : swapRemove i pool = some (h, rest)) : rest.length + 1 = pool.length := by
  cases pool with
  | nil => simp [swapRemove] at he
  | cons x xs =>
    unfold swapRemove at he
    split at he
    · simp only [Option.some.injEq, Prod.mk.injEq] at he
      rw [← he.2]
      simp only [List.length_dropLast, List.length_set, List.length_cons]
      omega
    · simp at he

/-- Tries one host: the role it serves and the connection, if that role is needed. -/
def probe (p : Prober σ ℓ κ) (needs : Needs) (h : Host) :
    Routine σ ℓ κ (Option (Role × Handle)) := do
  match ← p.connect h with
  | .error _ =>
    p.exclude h
    return none
  | .ok c =>
    match ← p.role c with
    | .error _ =>
      p.exclude h
      p.close c
      return none
    | .ok role =>
      if needs.wants role then return some (role, c)
      else
        p.close c
        return none

/-- What a pass leaves: the needs still open, and what it handed over. -/
structure Outcome where
  needs : Needs
  found : List (Role × Handle) := []

/-- Draws at most `n` times from the pool, until nothing is needed or nothing is left. A drawn host
that has become pointless is passed over. -/
def drain (p : Prober σ ℓ κ) : Nat → List Host → Outcome → Routine σ ℓ κ Outcome
  | 0, _, o => return o
  | n + 1, pool, o => do
    if pool.isEmpty || o.needs.satisfied then return o
    else
      match swapRemove (← p.draw pool.length) pool with
      | none => return o
      | some (host, rest) =>
        if o.needs.accepts host then
          match ← probe p o.needs host with
          | none => drain p n rest o
          | some (role, c) =>
            p.found role c
            drain p n rest ⟨o.needs.clear role, o.found ++ [(role, c)]⟩
        else drain p n rest o

/-- One pass over the hosts that are worth trying at its start, each of which it may draw once. -/
def pass (p : Prober σ ℓ κ) (hosts : List Host) (o : Outcome) : Routine σ ℓ κ Outcome :=
  let pool := hosts.filter o.needs.accepts
  drain p pool.length pool o

/-- A pass over the candidates that are not left out; the others are the last resort. -/
def twoPass (p : Prober σ ℓ κ) (blacklist : Blacklist) (candidates : List Host) (needs : Needs) :
    Routine σ ℓ κ Outcome := do
  let (excluded, allowed) := candidates.partition fun h => blacklist.contains h.endpoint
  let o ← pass p allowed { needs }
  if o.needs.satisfied || excluded.isEmpty then return o
  else pass p excluded o

/-- A search over the network for hosts of a mode, with no one to hand connections to. -/
def prober (mode : Mode) (r : Registry) : Prober Network ℓ κ where
  draw size := Routine.transact fun _ n => n.draw size
  connect := Calls.connect
  role := Calls.role mode.discoversRoles
  close := Calls.close
  exclude h := Routine.change fun now n => n.updateBlacklist r (·.add h.endpoint now)
  found _ _ := Routine.done ()

def Outcome.result (o : Outcome) : Except Error Unit :=
  if o.needs.satisfied then .ok () else .error (.noHostFound o.needs)

end Search
end Failover
