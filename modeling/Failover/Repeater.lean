import Failover.Routine

/-!
Repeaters: work done again and again, with one period between the end of a round and the start of
the next. A repeater has at most one live arming; a round that is already under way when its arming
ends is still finished, but it is the last. When an arming is cancelled at the very instant at which
the wait for a round is over, either of the two may come first.
-/
namespace Failover

/-- The armings so far, and whether the latest is live. -/
structure Repeater where
  generation : Nat := 0
  armed : Bool := false
  /-- The armings that were cancelled, and when. -/
  cancelled : List (Nat × Nat) := []
  deriving DecidableEq, Inhabited

namespace Repeater

def isLive (r : Repeater) (g : Nat) : Bool := r.armed && r.generation == g

def cancel (now : Nat) (r : Repeater) : Repeater :=
  if r.armed then { r with armed := false, cancelled := (r.generation, now) :: r.cancelled } else r

def arm? (r : Repeater) : Option Repeater :=
  if r.armed then none else some { r with generation := r.generation + 1, armed := true }

def restart (now : Nat) (r : Repeater) : Repeater :=
  { r.cancel now with generation := r.generation + 1, armed := true }

/-- The end of the arming `g`, which ends no later one. -/
def finish (r : Repeater) (g : Nat) : Repeater :=
  if r.generation = g then { r with armed := false } else r

/-- The arming `g` has been cancelled, but a wait of so many milliseconds is over just when that can
be noticed for the first time. -/
def contested (r : Repeater) (g now ms : Nat) : Bool :=
  r.cancelled.any fun c => c.1 == g && (ms == 0 || c.2 == now)

@[simp] theorem armed_cancel (now : Nat) (r : Repeater) : (r.cancel now).armed = false := by
  unfold cancel
  split <;> simp_all

@[simp] theorem generation_cancel (now : Nat) (r : Repeater) :
    (r.cancel now).generation = r.generation := by
  unfold cancel
  split <;> rfl

def AtRest (r : Repeater) : Prop := r.armed = false ∧ r.cancelled = []

theorem AtRest.cancel {r : Repeater} (hr : r.AtRest) (now : Nat) : (r.cancel now).AtRest := by
  rw [Repeater.cancel, if_neg (by simp [hr.1])]
  exact hr

theorem AtRest.finish {r : Repeater} (hr : r.AtRest) (g : Nat) : (r.finish g).AtRest := by
  unfold Repeater.finish
  split
  · exact ⟨rfl, hr.2⟩
  · exact hr

theorem not_atRest_of_isLive {r : Repeater} {g : Nat} (hl : r.isLive g = true) : ¬r.AtRest := by
  rintro ⟨harmed, -⟩
  simp [isLive, harmed] at hl

theorem not_atRest_of_contested {r : Repeater} {g now ms : Nat} (hc : r.contested g now ms = true) :
    ¬r.AtRest := by
  rintro ⟨-, hnone⟩
  simp [contested, hnone] at hc

/-- Whether the arming `g` begins a round when a wait of so many milliseconds is over: if it is
live, and where that is contested if the lot says so. -/
def admits {σ ℓ κ : Type} (get : σ → Repeater) (lot : Routine σ ℓ κ Bool) (g ms : Nat) :
    Routine σ ℓ κ Bool := do
  match ← Routine.read fun now s => ((get s).isLive g, (get s).contested g now ms) with
  | (true, _) => return true
  | (false, true) => lot
  | (false, false) => return false

/-- One round of the arming `g`: a wait, then the work if a round begins, and `again` unless the
work says to stop. -/
def round {σ ℓ κ : Type} (get : σ → Repeater) (put : Repeater → σ → σ) (lot : Routine σ ℓ κ Bool)
    (g delay : Nat) (work : Routine σ ℓ κ Bool) (again : κ) : Routine σ ℓ κ (Option κ) := do
  Routine.pause delay
  if ← admits get lot g delay then
    if ← work then
      return some again
    else
      Routine.change fun _ s => put ((get s).finish g) s
      return none
  else
    return none

end Repeater
end Failover
