import Failover.Proofs.Session.Attempts

/-!
What a session remembers of failures changes by what can happen to it only: what no such event
spoils holds of the memory of every session, whatever it has been through. So no query is counted
while the primary is good.
-/
namespace Failover
open Desk Routine

def memory (P : Outage → Prop) : House where
  lockFree d d' := P d.session.outage → P d'.session.outage
  own _ _ e := P e.before.session.outage → P e.after.session.outage
  inOrder _ := True
  always d := P d.session.outage

section Memory
variable {P : Outage → Prop} {duty : Duty} {t : List (Change Desk)} {d d' : Desk}

def Outage.Lasts (P : Outage → Prop) : Prop := ∀ o e, P o → P (Outage.apply o e)

theorem Outage.Lasts.move {said : Deed → Prop} {met : Outage.Event → Prop} (hP : Outage.Lasts P)
    (h : Move said met d d') :
    P d.session.outage → P d'.session.outage := by
  cases h with
  | outage e _ => exact hP _ e
  | primary x a => exact hP _ .primaryFound
  | secondary x a => exact hP _ .secondaryFound
  | _ => exact id

theorem Outage.Lasts.side {calls : Network → Network → Prop} {asked : Operation → Prop}
    (hP : Outage.Lasts P) (h : Side calls asked d d') :
    P d.session.outage → P d'.session.outage := by
  cases h with
  | count => exact hP _ .query
  | leave =>
    unfold Session.leave
    dsimp only
    split <;> exact id
  | _ => exact id

namespace Act
variable {α : Type}

theorem memory_moves (hP : Outage.Lasts P) {r : Act α}
    (hr : r.Steps (Move (fun _ => True) fun _ => True)) :
    r.Ensures ((memory P).rules duty) (fun _ _ _ => True) t d :=
  hr.ensures (F := fun _ _ => True) (fun _ _ _ _ _ _ => trivial)
    (fun _ _ _ _ _ hm => ⟨hP.move hm, trivial⟩) trivial

theorem memory_emptySlots :
    emptySlots.Ensures ((memory P).rules duty) (fun _ _ _ => True) t d :=
  outage_emptySlots.ensures (F := fun _ _ => True) (fun _ _ _ _ _ _ => trivial)
    (fun _ _ _ _ _ hs => ⟨fun h => hs ▸ h, trivial⟩) trivial

end Act

theorem admits_memory (hP : Outage.Lasts P) :
    (memory P).Admits (fun _ _ => True) fun _ => True where
  lockFree _ _ hd h := h hd
  own _ _ _ h hd := h hd
  order _ _ _ _ _ := trivial
  enough := ⟨fun _ => trivial, fun _ => trivial, fun h op _ =>
    (Network.suffices_keeps.invoke h op trivial).mono fun _ _ _ => trivial⟩
  side _ _ _ hs := hP.side hs
  ended _ _ _ := id
  shut _ _ := id
  cancel _ _ _ := id
  failover _ failed op _ _ _ _ := Act.memory_moves hP (Act.moves_handleFailover failed op)
  switch readOnly _ _ _ := Act.memory_moves hP (Act.moves_switchReadOnly readOnly)
  reconnect _ _ _ := Act.memory_moves hP Act.moves_reconnect
  close _ _ _ := Act.memory_emptySlots
  background _ _ _ := Act.memory_moves hP Act.moves_reconnectIfDue
  retry _ _ _ _ _ := Act.memory_moves hP Act.moves_retryRound
  ping _ _ _ _ _ _ := Act.memory_moves hP Act.moves_pingRound

namespace Office
variable {ask : Request → Prop} {t₀ t : List (Change Desk)} {o₀ o : Office}

/-- What holds of a new memory, and is spoilt by no event, holds of every session that is left to
itself. -/
theorem Begun.remembers_events (hP : Outage.Lasts P) (hnew : P {}) (ho : o₀.Begun SameSession)
    (h : Chronicle ask HandsIn SameSession t₀ o₀ t o) : P o.desk.session.outage := by
  have hh := admits_memory hP
  have hothers {d d' : Desk} (he : SameSession d d') :
      P d.session.outage → P d'.session.outage := by
    rw [he]
    exact id
  obtain ⟨_, _, _, _, _, hplay⟩ := ho.connected
  have hopened : P o₀.desk.session.outage :=
    Act.holds_connect (F := fun d => P d.session.outage) (fun _ _ hd he => hothers he hd)
      (fun _ _ hd hm => hP.move hm hd)
      ((Act.side_touchPing Network.suffices_keeps).mono fun _ _ hs => hP.side hs) hplay hnew
  refine (h.proper hh.toLasts (fun _ _ he => hothers he) (fun r _ => hh.request r.asks_all)
    hh.errand (fun c hc => ?_) (ho.proper hh trivial hopened)).always
  obtain ⟨e, role, x, rfl⟩ := hc
  intro d hd
  refine Minds.bind (minds_locked hh.toLasts fun d _ _ => ?_) fun _ _ _ => ⟨rfl, trivial⟩
  exact Act.memory_moves hP (Act.moves_found role x)

end Office

end Memory

namespace Outage

def Tallied (o : Outage) : Prop := o.primaryFailed = false → o.queries = 0

theorem lasts_tallied : Lasts Tallied := by
  intro o e h
  cases e with
  | primaryFailed time =>
    intro hf
    cases (primaryFailed_markPrimary time o).symm.trans hf
  | secondaryFailed time =>
    change (o.markSecondary time).Tallied
    unfold markSecondary
    split <;> exact h
  | primaryFound => exact fun _ => rfl
  | secondaryFound => exact h
  | query =>
    change o.countQuery.Tallied
    unfold countQuery
    split
    · rename_i hfailed
      intro hf
      cases hfailed.symm.trans hf
    · exact h
  | attempt time => exact h
  | readOnly requested => exact h

end Outage

theorem Office.Begun.tallied {ask : Request → Prop} {t₀ t : List (Change Desk)} {o₀ o : Office}
    (ho : o₀.Begun SameSession) (h : Chronicle ask HandsIn SameSession t₀ o₀ t o) :
    o.desk.session.outage.Tallied :=
  ho.remembers_events Outage.lasts_tallied (fun _ => rfl) h

end Failover
