import Failover.Proofs.Session.RoutingKept
import Failover.Session.Service

/-!
Work of a session that opens and closes no connection, and changes nothing of it that its lock
protects.
-/
namespace Failover

namespace Desk

structure Harmless (d d' : Desk) : Prop where
  core : d'.session.core = d.session.core
  retryLoop : d'.session.retryLoop = d.session.retryLoop
  closed : d'.session.closed = d.session.closed
  users : d'.session.users = d.session.users
  keeps : d.network.Keeps d'.network

theorem Harmless.refl (d : Desk) : Harmless d d := ⟨rfl, rfl, rfl, rfl, .refl _⟩

end Desk

namespace Act
open Desk Routine

theorem harmless_read {α : Type} {f : Nat → Desk → α} : (read f : Act α).Steps Harmless :=
  steps_read .refl

theorem harmless_onNetwork {α : Type} {r : NetRoutine Unit Errand α} (h : r.Steps Network.Keeps) :
    (onNetwork r).Steps Harmless :=
  Steps.embed (fun _ _ hk => ⟨rfl, rfl, rfl, rfl, hk⟩) h

theorem harmless_note (deed : Deed) : (note deed).Steps Harmless :=
  steps_change fun _ _ => ⟨rfl, rfl, rfl, rfl, .refl _⟩

theorem harmless_updateBlacklist (f : Nat → Endpoint → Blacklist → Blacklist) (h : Handle) :
    (updateBlacklist f h).Steps Harmless :=
  steps_change fun _ _ => ⟨rfl, rfl, rfl, rfl, .of_eq (Network.connections_updateBlacklist ..)⟩

theorem harmless_countQuery : (updateOutage fun _ o => o.countQuery).Steps Harmless :=
  steps_change fun _ d => ⟨Session.core_countQuery d.session, rfl, rfl, rfl, .refl _⟩

theorem harmless_answering (h : Option Handle) : (answering h).Steps Harmless := by
  cases h with
  | none => trivial
  | some h =>
    refine (harmless_onNetwork (Calls.keeps_ping h)).bind fun x => ?_
    rcases x with e | (_ | _) <;> trivial

theorem harmless_sync (source dest : Handle) : (sync source dest).Steps Harmless :=
  (harmless_note _).bind fun _ => harmless_onNetwork (Carryover.keeps_sync source dest)

theorem harmless_trySync (source dest : Handle) : (trySync source dest).Steps Harmless :=
  (harmless_sync source dest).discard

theorem harmless_invoke (h : Handle) (op : Operation) : (invoke h op).Steps Harmless :=
  (harmless_note _).bind fun _ => harmless_onNetwork (Calls.keeps_invoke h op)

theorem harmless_relaunch (op : Option Operation) (h : Handle) :
    (relaunch op h).Steps Harmless := by
  unfold relaunch Carryover.relaunch
  split
  · trivial
  · refine (harmless_invoke h _).bind fun r => ?_
    cases r <;> trivial

theorem harmless_relaunchOnCurrent (op : Option Operation) :
    (relaunchOnCurrent op).Steps Harmless := by
  refine harmless_read.bind fun s => ?_
  split
  · exact harmless_relaunch op _
  · trivial

end Act
end Failover
