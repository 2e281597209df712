import Failover.Host

/-!
The simulated servers: which are up, which take writes, and what they were told. Ids, stops,
attempts and the generations of connections are counted without a bound; in words of 64 bits the
counts are the same while they stay below `2 ^ 64`.
-/
namespace Failover

structure Server where
  id : Nat
  up : Bool := true
  /-- Takes writes. -/
  writable : Bool
  /-- Counts the stops, so that a connection can tell that its server went down in between. -/
  generation : Nat := 0
  version : Nat × Nat × Nat := (10, 0, 0)
  /-- Statements in the order in which they arrived. -/
  executed : List String := []
  /-- Counts the attempts to connect, whether they succeed or not. -/
  connectAttempts : Nat := 0

structure Cluster where
  servers : List (Endpoint × Server) := []

namespace Cluster

def find? (c : Cluster) (e : Endpoint) : Option Server := c.servers.lookup e

def update (e : Endpoint) (f : Server → Server) (c : Cluster) : Cluster :=
  ⟨c.servers.map fun x => if x.1 = e then (x.1, f x.2) else x⟩

/-- Adds a server, which takes the place of an earlier one at its endpoint. The number of servers
before it decides its id. -/
def add (e : Endpoint) (writable : Bool) (c : Cluster) : Cluster :=
  let fresh : Server := { id := c.servers.length + 1, writable }
  if c.servers.any (·.1 = e) then c.update e fun _ => fresh
  else ⟨c.servers ++ [(e, fresh)]⟩

def stop (e : Endpoint) (c : Cluster) : Cluster :=
  c.update e fun s => { s with up := false, generation := s.generation + 1 }

def start (e : Endpoint) (c : Cluster) : Cluster := c.update e fun s => { s with up := true }

def promote (e : Endpoint) (c : Cluster) : Cluster :=
  ⟨c.servers.map fun x => (x.1, { x.2 with writable := x.1 = e })⟩

def demote (e : Endpoint) (c : Cluster) : Cluster :=
  c.update e fun s => { s with writable := false }

def setVersion (e : Endpoint) (version : Nat × Nat × Nat) (c : Cluster) : Cluster :=
  c.update e fun s => { s with version }

def isUp (c : Cluster) (e : Endpoint) : Bool := (c.find? e).any (·.up)

def ofHosts (hosts : List (Host × Bool)) : Cluster :=
  hosts.foldl (fun c h => c.add h.1.endpoint h.2) {}

def numbered (role : Role) (i : Nat) : Host :=
  ⟨⟨"mock-" ++ toString i, UInt16.ofNat (3306 + i)⟩, role⟩

def replicationHosts (replicas : Nat) : List (Host × Bool) :=
  (numbered .primary 0, true) ::
    (List.range replicas).map fun i => (numbered .replica (i + 1), false)

def multiPrimaryHosts (count : Nat) : List (Host × Bool) :=
  (List.range count).map fun i => (numbered .primary i, true)

theorem find?_update_of_ne {c : Cluster} {e e' : Endpoint} (f : Server → Server) (h : e' ≠ e) :
    (c.update e f).find? e' = c.find? e' := by
  obtain ⟨servers⟩ := c
  simp only [update, find?]
  induction servers with
  | nil => rfl
  | cons x xs ih =>
    obtain ⟨k, s⟩ := x
    by_cases hk : k = e
    · subst hk
      simp [List.lookup_cons, beq_false_of_ne h, ih]
    · simp [List.lookup_cons, hk, ih]

theorem find?_update_self (c : Cluster) (e : Endpoint) (f : Server → Server) :
    (c.update e f).find? e = (c.find? e).map f := by
  obtain ⟨servers⟩ := c
  simp only [update, find?]
  induction servers with
  | nil => rfl
  | cons x xs ih =>
    obtain ⟨k, s⟩ := x
    by_cases hk : k = e
    · simp [hk]
    · simp [List.lookup_cons, hk, beq_false_of_ne (Ne.symm hk), ih]

end Cluster
end Failover
