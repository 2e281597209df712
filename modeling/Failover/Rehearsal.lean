import Failover.Machine
import Failover.Repeater

/-! A repeater on its own under the virtual clock, with rounds that note when they begin. -/
namespace Failover.Rehearsal

/-- What the rounds of an arming do, and what their last round arms in its place. -/
structure Arming where
  id : String
  delay : Nat
  period : Nat
  /-- How long a round takes. -/
  length : Nat := 0
  /-- How long each round takes, by its number, where they differ. -/
  lengthOf : Nat → Nat := fun _ => length
  /-- The round that ends the arming, counted over all armings of this name; zero for none. -/
  stopAfter : Nat
  successor : Option Arming := none

structure Stage where
  repeater : Repeater := {}
  /-- What the coming lots will say; when they run out, that the cancellation came first. -/
  lots : List Bool := []
  /-- The times at which rounds began, by name, names in the order of their first round. -/
  log : List (String × List Nat) := []

def note (id : String) (time : Nat) : List (String × List Nat) → List (String × List Nat)
  | [] => [(id, [time])]
  | x :: xs => if x.1 = id then (id, x.2 ++ [time]) :: xs else x :: note id time xs

def count (id : String) (log : List (String × List Nat)) : Nat := ((log.lookup id).getD []).length

/-- The coming round of an arming: the arming's number and the wait before the round. -/
structure Round where
  arming : Arming
  generation : Nat
  wait : Nat

def arm (a : Arming) : Routine Stage Unit Round Bool := do
  match ← Routine.read fun _ s => s.repeater.arm? with
  | none => return false
  | some r =>
    Routine.change fun _ s => { s with repeater := r }
    Routine.spawn ⟨a, r.generation, a.delay⟩
    return true

def cancel : Routine Stage Unit Round Unit :=
  Routine.change fun now s => { s with repeater := s.repeater.cancel now }

def restart (a : Arming) : Routine Stage Unit Round Unit := do
  cancel
  discard (arm a)

/-- A round: note the time, take as long as planned, and go on unless this was the last. -/
def work (a : Arming) : Routine Stage Unit Round Bool := do
  let n ← Routine.transact fun now s =>
    let log := note a.id now s.log
    (count a.id log, { s with log := log })
  Routine.pause (a.lengthOf n)
  if n = a.stopAfter then
    a.successor.forM restart
    return false
  else
    return true

def drawLot : Routine Stage Unit Round Bool :=
  Routine.transact fun _ s => (s.lots.headD false, { s with lots := s.lots.tail })

def body (r : Round) : Task Stage Unit Round :=
  Repeater.round Stage.repeater (fun p s => { s with repeater := p }) drawLot r.generation r.wait
    (work r.arming) { r with wait := r.arming.period }

inductive Step where
  | arm (a : Arming)
  | restart (a : Arming)
  | cancel
  | advance (ms : Nat)

def perform (step : Step) (m : Machine Stage Unit Round) :
    Option Bool × Machine Stage Unit Round :=
  match step with
  | .arm a => let (armed, m) := m.run body (arm a); (some armed, m)
  | .restart a => (none, (m.run body (restart a)).2)
  | .cancel => (none, (m.run body cancel).2)
  | .advance ms => (none, m.advance body ms)

end Failover.Rehearsal
