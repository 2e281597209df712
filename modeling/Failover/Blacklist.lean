import Failover.Host

/-! Servers left out of a search for a while, each with the time at which it was put there. -/
namespace Failover

/-- At most one entry for a server. Times may lie before the clock's start. -/
structure Blacklist where
  entries : List (Endpoint × Int) := []

namespace Blacklist

def contains (b : Blacklist) (e : Endpoint) : Bool := b.entries.any (·.1 == e)

def remove (e : Endpoint) (b : Blacklist) : Blacklist := ⟨b.entries.filter (·.1 != e)⟩

/-- Leaves a server out from the given time on, whenever it was put there before. -/
def add (e : Endpoint) (time : Int) (b : Blacklist) : Blacklist :=
  ⟨(b.remove e).entries ++ [(e, time)]⟩

/-- An entry lapses when it is as old as the lifetime; one from the future has no age. -/
def isFresh (now : Int) (lifetime : Nat) (entry : Endpoint × Int) : Bool :=
  (now - entry.2).toNat < lifetime

def prune (now : Int) (lifetime : Nat) (b : Blacklist) : Blacklist :=
  ⟨b.entries.filter (isFresh now lifetime)⟩

def pruned (now : Int) (lifetime : Nat) (b : Blacklist) : Nat :=
  b.entries.length - (b.prune now lifetime).entries.length

def keep (b : Blacklist) (hosts : List Host) : List Host :=
  hosts.filter fun h => !b.contains h.endpoint

@[simp] theorem contains_remove_self (b : Blacklist) (e : Endpoint) :
    (b.remove e).contains e = false := by
  simp [contains, remove]

@[simp] theorem contains_add_self (b : Blacklist) (e : Endpoint) (t : Int) :
    (b.add e t).contains e = true := by
  simp [contains, add]

end Blacklist
end Failover
