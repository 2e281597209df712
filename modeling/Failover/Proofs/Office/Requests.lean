import Failover.Proofs.Office.Service

/-!
Who does all that callers ask of a session, and all that it does in the background, keeps to the
rules of a house, if those admit what is done without the lock and the procedures that are done
under it.
-/
namespace Failover
open Desk Routine

/-- All operations of a request are such as are asked for. -/
def Request.Asks (asked : Operation → Prop) : Request → Prop
  | .execute op => asked op
  | .needsFailover _ op => ∀ x ∈ op, asked x
  | .handleFailure _ op _ => ∀ x ∈ op, asked x
  | _ => True

theorem Request.asks_all (r : Request) : r.Asks fun _ => True := by
  cases r <;> simp [Request.Asks]

/-- The rules admit what a session does without its lock, and what each procedure under the lock
does. -/
structure House.Admits (house : House) (calls : Network → Network → Prop)
    (asked : Operation → Prop) : Prop extends House.Lasts house where
  enough : Network.Suffices calls asked
  side : ∀ d d', house.always d → Side calls asked d d' → house.lockFree d d'
  /-- Whoever ends an arming of the retry loop need not know that it is over. -/
  ended : ∀ d g, house.always d →
    house.lockFree d ⟨{ d.session with retryLoop := d.session.retryLoop.finish g }, d.network⟩
  shut : ∀ d, house.always d → house.lockFree d ⟨{ d.session with closed := true }, d.network⟩
  cancel : ∀ now d, house.always d → house.lockFree d ⟨d.session.cancelLoops now, d.network⟩
  failover : ∀ duty failed op, (∀ x ∈ op, asked x) → ∀ d, house.always d → house.inOrder d →
    (Act.handleFailover failed op).Ensures (house.rules duty) (fun _ _ => house.inOrder) [] d
  switch : ∀ readOnly d, house.always d → house.inOrder d → (Act.switchReadOnly readOnly).Ensures
    (house.rules (.request (.switchReadOnly readOnly))) (fun _ _ => house.inOrder) [] d
  reconnect : ∀ d, house.always d → house.inOrder d → Act.reconnect.Ensures
    (house.rules (.request .reconnect)) (fun _ _ => house.inOrder) [] d
  close : ∀ d, house.always d → house.inOrder d → Act.emptySlots.Ensures
    (house.rules (.request .close)) (fun _ _ => house.inOrder) [] d
  background : ∀ d, house.always d → house.inOrder d → Act.reconnectIfDue.Ensures
    (house.rules (.errand .reconnect)) (fun _ _ => house.inOrder) [] d
  retry : ∀ g delay d, house.always d → house.inOrder d → Act.retryRound.Ensures
    (house.rules (.errand (.retry g delay))) (fun _ _ => house.inOrder) [] d
  /-- Where the ping loop is never armed its rounds come to nothing. -/
  ping : ∀ g delay, (∃ d, house.always d ∧ ¬d.session.pingLoop.AtRest) →
    ∀ d, house.always d → house.inOrder d → Act.pingRound.Ensures
      (house.rules (.errand (.ping g delay))) (fun _ _ => house.inOrder) [] d

namespace House.Admits
variable {house : House} {calls : Network → Network → Prop} {asked : Operation → Prop} {duty : Duty}
  {d : Desk} {α : Type}

theorem beside (hh : house.Admits calls asked) {r : Act α} (h : r.Steps (Side calls asked))
    (hd : house.always d) : r.Minds house duty (fun _ => house.always) none d :=
  Steps.minds hh.toLasts (h.mono fun d d' hs hd => hh.side d d' hd hs) hd

theorem needsFailover (hh : house.Admits calls asked) (failed : Handle) {op : Option Operation}
    (hop : ∀ x ∈ op, asked x) :
    (Act.needsFailover failed op).Minds house duty (fun _ => house.always) none d :=
  minds_locked hh.toLasts (hh.failover duty failed op hop)

theorem handleFailure (hh : house.Admits calls asked) (failed : Handle) {op : Option Operation}
    (hop : ∀ x ∈ op, asked x) (e : Error) :
    (Act.handleFailure failed op e).Minds house duty (fun _ => house.always) none d :=
  (hh.needsFailover failed hop).bind fun _ _ hd => ⟨rfl, hd⟩

theorem invoke (hh : house.Admits calls asked) {x : Handle} {op : Operation} (hop : asked op)
    (hx : d.session.current = some x) (hd : house.always d) :
    (Act.invoke x op).Minds house duty (fun _ => house.always) none d := by
  intro now
  have hnoted := hh.side _ _ hd (.invoke x op hop hx)
  exact ⟨hnoted, hh.beside (Act.side_call hh.enough x hop) (hh.lockFree _ _ hd hnoted)⟩

theorem execute (hh : house.Admits calls asked) {op : Operation} (hop : asked op)
    (hd : house.always d) :
    (Act.execute op).Minds house duty (fun _ => house.always) none d := by
  refine (hh.beside (Act.side_prepare hh.enough op) hd).bind fun _ d hd => ?_
  refine Minds.bind (Q := fun s d => s = d.session ∧ house.always d)
    (fun now => ⟨hh.side _ _ hd (.network d.network (hh.enough.refl _)), rfl, rfl, hd⟩)
    fun s d hs => ?_
  obtain ⟨rfl, hd⟩ := hs
  split
  · exact ⟨rfl, hd⟩
  · rename_i x hx
    refine (hh.invoke hop hx hd).bind fun r d hd => ?_
    cases r with
    | ok r => exact (hh.beside (Act.side_touchPing hh.enough) hd).bind fun _ _ hd => ⟨rfl, hd⟩
    | error e =>
      dsimp only
      split
      · exact hh.handleFailure x (by simpa using hop) e
      · exact ⟨rfl, hd⟩

theorem closes (hh : house.Admits calls asked) (hd : house.always d) :
    Act.close.Minds house (.request .close) (fun _ => house.always) none d := by
  have hshut := hh.shut d hd
  refine Minds.bind (Q := fun _ => house.always)
    (fun now => ⟨hshut, rfl, hh.lockFree _ _ hd hshut⟩) fun first d hd => ?_
  split
  · refine Minds.bind (Q := fun _ => house.always)
      (fun now => ⟨hh.cancel now d hd, rfl, hh.lockFree _ _ hd (hh.cancel now d hd)⟩) fun _ d hd => ?_
    exact minds_locked hh.toLasts hh.close
  · exact ⟨rfl, hd⟩

theorem attended (hh : house.Admits calls asked) {r : Act α}
    (hr : ∀ d, house.always d → r.Minds house duty (fun _ => house.always) none d)
    (hd : house.always d) : (Act.attended r).Minds house duty (fun _ => house.always) none d := by
  have hjoin : (Act.update fun s => { s with users := s.users + 1 }).Steps (Side calls asked) :=
    steps_change fun _ d => .staff _ d.session.reconnecting
  have hleave : (Act.updateNow Session.leave).Steps (Side calls asked) :=
    steps_change fun now _ => .leave now
  refine (hh.beside hjoin hd).bind fun _ d hd => (hr d hd).bind fun a d hd => ?_
  exact (hh.beside hleave hd).bind fun _ _ hd => ⟨rfl, hd⟩

theorem whileUsed (hh : house.Admits calls asked) {r : Act Bool}
    (hr : ∀ d, house.always d → r.Minds house duty (fun _ => house.always) none d)
    (hd : house.always d) : (Act.whileUsed r).Minds house duty (fun _ => house.always) none d := by
  refine (hh.beside (Act.side_read hh.enough) hd).bind fun s d hd => ?_
  split
  · exact ⟨rfl, hd⟩
  · exact hh.attended hr hd

theorem admits (hh : house.Admits calls asked) {get : Desk → Repeater}
    (hget : ∀ d n, get ⟨d.session, n⟩ = get d) (g ms : Nat) (hd : house.always d) :
    (Repeater.admits get Act.drawLot g ms).Minds house duty
      (fun begins d => house.always d ∧ (begins = true → ¬(get d).AtRest)) none d := by
  refine Minds.bind (Q := fun x d => house.always d ∧ (x.1 = true ∨ x.2 = true → ¬(get d).AtRest))
    (fun now => ⟨hh.side _ _ hd (.network d.network (hh.enough.refl _)), rfl, hd, ?_⟩) ?_
  · exact fun hx => hx.elim Repeater.not_atRest_of_isLive Repeater.not_atRest_of_contested
  · rintro x d ⟨hd, harmed⟩
    split
    · exact ⟨rfl, hd, fun _ => harmed (.inl rfl)⟩
    · intro now
      have hdrawn := hh.side _ _ hd (.network d.network.drawLot.2 (hh.enough.drawLot _))
      refine ⟨hdrawn, rfl, hh.lockFree _ _ hd hdrawn, fun _ => ?_⟩
      have hsame : get ⟨d.session, d.network.drawLot.2⟩ = get d := hget d _
      exact hsame ▸ harmed (.inr rfl)
    · exact ⟨rfl, hd, nofun⟩

theorem round (hh : house.Admits calls asked) {get : Desk → Repeater}
    {put : Repeater → Desk → Desk} {g delay : Nat} {work : Act Bool} {again : Errand}
    (hget : ∀ d n, get ⟨d.session, n⟩ = get d)
    (hwork : ∀ d, house.always d → ¬(get d).AtRest →
      work.Minds house duty (fun _ => house.always) none d)
    (hput : ∀ d, house.always d → house.lockFree d (put ((get d).finish g) d)) (hd : house.always d) :
    (Repeater.round get put Act.drawLot g delay work again).Minds house duty (fun _ _ => True) none
      d := by
  refine (hh.beside (steps_pause delay) hd).bind fun _ d hd => ?_
  refine (hh.admits hget g delay hd).bind fun begins d hbegins => ?_
  obtain ⟨hd, harmed⟩ := hbegins
  split
  · rename_i hbegins
    refine (hwork d hd (harmed hbegins)).bind fun more d hd => ?_
    cases more with
    | true => exact ⟨rfl, trivial⟩
    | false =>
      refine Minds.bind (Q := fun _ _ => True) (fun now => ⟨hput d hd, rfl, trivial⟩) ?_
      exact fun _ _ _ => ⟨rfl, trivial⟩
  · exact ⟨rfl, trivial⟩

theorem request (hh : house.Admits calls asked) {r : Request} (hr : r.Asks asked) :
    Office.Heeds house (.fresh (.request r)) := by
  intro d hd
  refine Minds.bind (Q := fun _ => house.always) (Minds.discard ?_) fun _ _ _ => ⟨rfl, trivial⟩
  cases r with
  | execute op => exact (hh.execute hr hd).bind fun _ _ hd => ⟨rfl, hd⟩
  | switchReadOnly readOnly =>
    exact (minds_locked hh.toLasts (hh.switch readOnly)).bind fun _ _ hd => ⟨rfl, hd⟩
  | reconnect => exact (minds_locked hh.toLasts hh.reconnect).bind fun _ _ hd => ⟨rfl, hd⟩
  | needsFailover failed op => exact (hh.needsFailover failed hr).bind fun _ _ hd => ⟨rfl, hd⟩
  | handleFailure failed op e => exact (hh.handleFailure failed hr e).bind fun _ _ hd => ⟨rfl, hd⟩
  | close => exact (hh.closes hd).bind fun _ _ hd => ⟨rfl, hd⟩

/-- Whatever the session does in the background is done by the rules. -/
theorem errand (hh : house.Admits calls asked) (e : Errand) :
    Office.Heeds house (.fresh (.errand e)) := by
  intro d hd
  cases e with
  | reconnect =>
    have hdone : (do
        Act.update fun s => { s with reconnecting := false }
        Act.updateNow Session.leave : Act Unit).Steps (Side calls asked) :=
      Steps.bind (steps_change fun _ d => .staff d.session.users false) fun _ =>
        steps_change fun now _ => .leave now
    refine Minds.bind (Q := fun _ => house.always) ?_ fun _ _ _ => ⟨rfl, trivial⟩
    exact Minds.bind (minds_locked hh.toLasts hh.background) fun _ d hd => hh.beside hdone hd
  | retry g delay =>
    simp only [Clerk.fresh, Duty.work, Errand.body]
    refine hh.round (fun _ _ => rfl) (fun d hd _ => hh.whileUsed (fun d _ => ?_) hd)
      (fun d hd => hh.ended d g hd) hd
    exact minds_locked hh.toLasts (hh.retry g delay)
  | ping g delay =>
    simp only [Clerk.fresh, Duty.work, Errand.body]
    refine hh.round (fun _ _ => rfl) (fun d hd harmed => hh.whileUsed (fun d' _ => ?_) hd)
      (fun d hd => hh.side _ _ hd (.rested g)) hd
    exact minds_locked hh.toLasts (hh.ping g delay ⟨d, hd, harmed⟩)

end House.Admits
end Failover
