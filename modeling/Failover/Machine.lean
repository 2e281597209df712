import Failover.Routine

/-!
One thread, many tasks and a virtual clock. Tasks run in turn, each until it waits; time moves only
when none can run. The foreground is one more routine, which runs ahead of every task.
-/
namespace Failover

/-- How long a wait for so many milliseconds takes that begins at a given time. It is exact if the
clock, which tells times up to the last one, can tell its end; only a wait for nothing takes no
time. -/
structure Timer where
  last : Nat
  lasting : Nat → Nat → Nat
  lasting_eq_zero : ∀ now ms, lasting now ms = 0 ↔ ms = 0
  lasting_of_le : ∀ now ms, now + ms ≤ last → lasting now ms = ms

namespace Timer

/-- What a wait takes whose end the clock cannot tell: thirty years of 365 days. -/
def farFuture : Nat := 946080000000

/-- The clock counts whole seconds below `2 ^ 63`. -/
def standard : Timer where
  last := 9223372036854775807999
  lasting now ms := if ms = 0 ∨ now + ms ≤ 9223372036854775807999 then ms else farFuture
  lasting_eq_zero now ms := by
    simp only [farFuture]
    split <;> omega
  lasting_of_le now ms h := if_pos (.inr h)

/-- No wait takes longer than to the far future. -/
def capped : Timer where
  last := farFuture
  lasting _ ms := min ms farFuture
  lasting_eq_zero _ ms := by
    simp only [farFuture]
    omega
  lasting_of_le now ms h := by omega

end Timer

/-- A task ends by naming the job it carries on with, if any. -/
abbrev Task (σ ℓ κ : Type) := Routine σ ℓ κ (Option κ)

structure Machine (σ ℓ κ : Type) where
  now : Nat := 0
  state : σ
  /-- Tasks that can run at this instant, the next one first. -/
  ready : List (Task σ ℓ κ) := []
  /-- Tasks that wait for a time, earliest first, and first come first at one time. -/
  asleep : List (Nat × Task σ ℓ κ) := []
  held : List ℓ := []
  /-- Who waits for which lock, in order of arrival; the foreground is the one that is no task. -/
  queue : List (ℓ × Option (Task σ ℓ κ)) := []
  /-- The foreground has been given the lock it waits for. -/
  granted : Bool := false
  timer : Timer := .standard
  /-- How many times tasks may be resumed while the foreground waits once. -/
  patience : Nat := 1000000000

namespace Machine
variable {σ ℓ κ α : Type} [DecidableEq ℓ]

def insertAsleep (due : Nat) (t : Task σ ℓ κ) :
    List (Nat × Task σ ℓ κ) → List (Nat × Task σ ℓ κ)
  | [] => [(due, t)]
  | x :: xs => if x.1 ≤ due then x :: insertAsleep due t xs else (due, t) :: x :: xs

def due (ms : Nat) (m : Machine σ ℓ κ) : Nat := m.now + m.timer.lasting m.now ms

def sleep (ms : Nat) (t : Task σ ℓ κ) (m : Machine σ ℓ κ) : Machine σ ℓ κ :=
  { m with asleep := insertAsleep (m.due ms) t m.asleep }

def nextInQueue? (l : ℓ) : List (ℓ × Option (Task σ ℓ κ)) →
    Option (Option (Task σ ℓ κ) × List (ℓ × Option (Task σ ℓ κ)))
  | [] => none
  | x :: xs =>
    if x.1 = l then some (x.2, xs) else (nextInQueue? l xs).map fun (t, rest) => (t, x :: rest)

/-- A released lock goes straight to the first who waits for it. -/
def unlock (l : ℓ) (m : Machine σ ℓ κ) : Machine σ ℓ κ :=
  match nextInQueue? l m.queue with
  | none => { m with held := m.held.erase l }
  | some (none, rest) => { m with queue := rest, granted := true }
  | some (some t, rest) => { m with queue := rest, ready := m.ready ++ [t] }

/-- Runs a task until it ends or has to wait. A wait of nothing is no wait. -/
def activate (body : κ → Task σ ℓ κ) : Task σ ℓ κ → Machine σ ℓ κ → Machine σ ℓ κ
  | .done none, m => m
  | .done (some j), m => { m with ready := body j :: m.ready }
  | .act step next, m => activate body (next m.now m.state) { m with state := step m.now m.state }
  | .wait ms next, m => if ms = 0 then activate body next m else m.sleep ms next
  | .acquire l next, m =>
    if l ∈ m.held then { m with queue := m.queue ++ [(l, some next)] }
    else activate body next { m with held := l :: m.held }
  | .release l next, m => activate body next (m.unlock l)
  | .start j next, m => activate body next { m with ready := m.ready ++ [body j] }

/-- Moves the clock and wakes everyone whose time has come. -/
def wakeAt (time : Nat) (m : Machine σ ℓ κ) : Machine σ ℓ κ :=
  let due := m.asleep.takeWhile (·.1 ≤ time)
  { m with
    now := time
    ready := m.ready ++ due.map (·.2)
    asleep := m.asleep.dropWhile (·.1 ≤ time) }

/-- Lets the tasks go on while the foreground waits: until `limit` if one is given, else until
nothing can run and `ended` holds, or nothing is left to happen. -/
def idle (body : κ → Task σ ℓ κ) (ended : Machine σ ℓ κ → Bool) (limit : Option Nat) :
    Nat → Machine σ ℓ κ → Machine σ ℓ κ
  | 0, m => m
  | fuel + 1, m =>
    match m.ready with
    | t :: rest => idle body ended limit fuel (activate body t { m with ready := rest })
    | [] =>
      if ended m then m
      else match m.asleep.head?, limit with
        | none, none => m
        | none, some time => m.wakeAt time
        | some (due, _), none => idle body ended limit fuel (m.wakeAt due)
        | some (due, _), some time =>
          if time ≤ due then m.wakeAt time else idle body ended limit fuel (m.wakeAt due)

/-- At the end of a wait the foreground goes first. -/
def passUntil (body : κ → Task σ ℓ κ) (time : Nat) (m : Machine σ ℓ κ) : Machine σ ℓ κ :=
  idle body (fun _ => false) (some time) m.patience m

def settle (body : κ → Task σ ℓ κ) (m : Machine σ ℓ κ) : Machine σ ℓ κ :=
  idle body (fun _ => true) none m.patience m

def passUntilHolds (body : κ → Task σ ℓ κ) (ended : Machine σ ℓ κ → Bool) (m : Machine σ ℓ κ) :
    Machine σ ℓ κ :=
  idle body ended none m.patience m

def run (body : κ → Task σ ℓ κ) : Routine σ ℓ κ α → Machine σ ℓ κ → α × Machine σ ℓ κ
  | .done a, m => (a, m)
  | .act step next, m => run body (next m.now m.state) { m with state := step m.now m.state }
  | .wait ms next, m => run body next (if ms = 0 then m else passUntil body (m.due ms) m)
  | .acquire l next, m =>
    run body next <|
      if l ∈ m.held then
        let m := { m with queue := m.queue ++ [(l, none)], granted := false }
        { passUntilHolds body (·.granted) m with granted := false }
      else { m with held := l :: m.held }
  | .release l next, m => run body next (m.unlock l)
  | .start j next, m => run body next { m with ready := m.ready ++ [body j] }

def advance (body : κ → Task σ ℓ κ) (ms : Nat) (m : Machine σ ℓ κ) : Machine σ ℓ κ :=
  settle body (m.run body (Routine.pause ms)).2

end Machine
end Failover
