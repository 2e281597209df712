/-!
Routines: the finite pieces of work of which sessions and their background tasks are made. A
routine reads and changes a shared state in one go between two points where it may have to wait.
-/
namespace Failover

/-- Work on a state `σ` that may wait, hold the locks `ℓ`, start the jobs `κ`, and ends with an
`α`. The step and the choice of what follows both see the time and the state before the step. -/
inductive Routine (σ ℓ κ α : Type) where
  | done (a : α)
  | act (step : Nat → σ → σ) (next : Nat → σ → Routine σ ℓ κ α)
  | wait (ms : Nat) (next : Routine σ ℓ κ α)
  | acquire (lock : ℓ) (next : Routine σ ℓ κ α)
  | release (lock : ℓ) (next : Routine σ ℓ κ α)
  | start (job : κ) (next : Routine σ ℓ κ α)

namespace Routine
variable {σ τ ℓ ℓ' κ κ' α β : Type}

def andThen : Routine σ ℓ κ α → (α → Routine σ ℓ κ β) → Routine σ ℓ κ β
  | done a, f => f a
  | act step next, f => act step fun now s => (next now s).andThen f
  | wait ms next, f => wait ms (next.andThen f)
  | acquire l next, f => acquire l (next.andThen f)
  | release l next, f => release l (next.andThen f)
  | start j next, f => start j (next.andThen f)

instance : Monad (Routine σ ℓ κ) where
  pure := done
  bind := andThen

theorem andThen_done (r : Routine σ ℓ κ α) : r.andThen done = r := by
  induction r with
  | done a => rfl
  | act step next ih => simp only [andThen, ih]
  | wait ms next ih => simp only [andThen, ih]
  | acquire l next ih => simp only [andThen, ih]
  | release l next ih => simp only [andThen, ih]
  | start j next ih => simp only [andThen, ih]

theorem andThen_assoc {γ : Type} (r : Routine σ ℓ κ α) (f : α → Routine σ ℓ κ β)
    (g : β → Routine σ ℓ κ γ) : (r.andThen f).andThen g = r.andThen fun a => (f a).andThen g := by
  induction r with
  | done a => rfl
  | act step next ih => simp only [andThen, ih]
  | wait ms next ih => simp only [andThen, ih]
  | acquire l next ih => simp only [andThen, ih]
  | release l next ih => simp only [andThen, ih]
  | start j next ih => simp only [andThen, ih]

instance : LawfulMonad (Routine σ ℓ κ) :=
  LawfulMonad.mk' _ andThen_done (fun _ _ => rfl) andThen_assoc

def read (f : Nat → σ → α) : Routine σ ℓ κ α := act (fun _ s => s) fun now s => done (f now s)

def change (f : Nat → σ → σ) : Routine σ ℓ κ Unit := act f fun _ _ => done ()

def transact (f : Nat → σ → α × σ) : Routine σ ℓ κ α :=
  act (fun now s => (f now s).2) fun now s => done (f now s).1

def pause (ms : Nat) : Routine σ ℓ κ Unit := wait ms (done ())

def spawn (job : κ) : Routine σ ℓ κ Unit := start job (done ())

def locked (l : ℓ) (body : Routine σ ℓ κ α) : Routine σ ℓ κ α :=
  acquire l (body.andThen fun a => release l (done a))

/-- The same work as part of a larger state, with its locks and jobs renamed. -/
def embed (get : τ → σ) (put : σ → τ → τ) (lock : ℓ → ℓ') (job : κ → κ') :
    Routine σ ℓ κ α → Routine τ ℓ' κ' α
  | done a => done a
  | act step next =>
    act (fun now t => put (step now (get t)) t) fun now t =>
      (next now (get t)).embed get put lock job
  | wait ms next => wait ms (next.embed get put lock job)
  | acquire l next => acquire (lock l) (next.embed get put lock job)
  | release l next => release (lock l) (next.embed get put lock job)
  | start j next => start (job j) (next.embed get put lock job)

/-- Gives up at the first wait that would pass the limit, and then at the limit itself. Waiting for
a lock is not cut short. -/
def cutAt : Routine σ ℓ κ α → Nat → Routine σ ℓ κ (Option α)
  | done a, _ => done (some a)
  | act step next, limit => act step fun now s => (next now s).cutAt limit
  | wait ms next, limit =>
    if ms ≤ limit then wait ms (next.cutAt (limit - ms)) else wait limit (done none)
  | acquire l next, limit => acquire l (next.cutAt limit)
  | release l next, limit => release l (next.cutAt limit)
  | start j next, limit => start j (next.cutAt limit)

def within (r : Routine σ ℓ κ α) (limit : Nat) : Routine σ ℓ κ (Option α) := r.cutAt limit

end Routine
end Failover
