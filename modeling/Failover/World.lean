import Failover.Machine
import Failover.Session.Service

/-! Several sessions over one network, and the tasks that run for them. -/
namespace Failover

structure World where
  network : Network := {}
  sessions : Array Session := #[]
  /-- What became of the requests made in the background, by ticket. -/
  answers : List (Nat × Answer) := []

inductive Job where
  | errand (session : Nat) (e : Errand)
  | request (ticket session : Nat) (r : Request)

namespace World
variable {α : Type}

def session (w : World) (i : Nat) : Session := w.sessions.getD i default

def desk (w : World) (i : Nat) : Desk := ⟨w.session i, w.network⟩

def putDesk (i : Nat) (d : Desk) (w : World) : World :=
  { w with network := d.network, sessions := w.sessions.setIfInBounds i d.session }

def onSession (i : Nat) (r : Act α) : Routine World Nat Job α :=
  r.embed (·.desk i) (putDesk i) (fun _ => i) (.errand i)

def onNetwork (r : NetRoutine Nat Job α) : Routine World Nat Job α :=
  r.embed World.network (fun n w => { w with network := n }) id id

end World

def Job.body : Job → Routine World Nat Job (Option Job)
  | .errand i e => do
    return (← World.onSession i e.body).map (.errand i)
  | .request ticket i r => do
    let a ← World.onSession i r.serve
    World.onSession i (Act.updateNow Session.leave)
    Routine.change fun _ w => { w with answers := (ticket, a) :: w.answers }
    return none

end Failover
