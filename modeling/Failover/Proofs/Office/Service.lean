import Failover.Proofs.Office.Chronicle
import Failover.Proofs.Network.CallFrames

/-!
All that callers ask of a session and all that it does in the background: what is done without the
lock, and that it is enough to know that the rest abides by the rules.
-/
namespace Failover
open Desk Routine

namespace Network

/-- Calls of this kind are all that it takes to do the operations that are asked for. -/
structure Suffices (calls : Network → Network → Prop) (asked : Operation → Prop) : Prop where
  refl : ∀ n, calls n n
  drawLot : ∀ n, calls n n.drawLot.2
  invoke : ∀ h op, asked op →
    (Calls.invoke h op : NetRoutine Unit Errand (Except Error QueryResult)).Steps calls

theorem suffices_keeps : Suffices Keeps fun _ => True :=
  ⟨.refl, fun _ => .of_eq rfl, fun h op _ => Calls.keeps_invoke h op⟩

end Network

namespace Desk

/-- What a session's work does without the lock in one step, save closing the session. -/
inductive Side (calls : Network → Network → Prop) (asked : Operation → Prop) (d : Desk) : Desk → Prop
  | network (n : Network) : calls d.network n → Side calls asked d ⟨d.session, n⟩
  | invoke (h : Handle) (op : Operation) : asked op → d.session.current = some h →
      Side calls asked d ⟨{ d.session with journal := .invoke h op :: d.session.journal }, d.network⟩
  | count : Side calls asked d
      ⟨{ d.session with outage := d.session.outage.countQuery }, d.network⟩
  | idle (r : Repeater) : d.session.closed = false → d.session.policy = .replicated →
      Side calls asked d ⟨{ d.session with pingLoop := r }, d.network⟩
  | staff (users : Nat) (reconnecting : Bool) : Side calls asked d
      ⟨{ d.session with users := users, reconnecting := reconnecting }, d.network⟩
  | leave (now : Nat) : Side calls asked d ⟨d.session.leave now, d.network⟩
  | ended (g : Nat) : (0 < d.session.users → d.session.retryLoop.armed = false) → Side calls asked d
      ⟨{ d.session with retryLoop := d.session.retryLoop.finish g }, d.network⟩
  | rested (g : Nat) : Side calls asked d
      ⟨{ d.session with pingLoop := d.session.pingLoop.finish g }, d.network⟩

theorem Side.size {asked : Operation → Prop} {d d' : Desk} (h : Side Network.Keeps asked d d') :
    d'.network.connections.size = d.network.connections.size := by
  cases h with
  | network n hk => exact hk.size
  | _ => rfl

end Desk

namespace Act
variable {α : Type} {calls : Network → Network → Prop} {asked : Operation → Prop}

/-- What a round of the retry loop does under the lock. -/
def retryRound : Act Bool := do
  let s ← session
  if s.closed || !s.outage.anyFailed then stopRetry
  else if ← shouldReconnect then
    match ← reconnect with
    | .ok _ => stopRetry
    | .error _ => retryAgain
  else retryAgain

/-- What a round of the ping loop does under the lock. -/
def pingRound : Act Bool := do
  let s ← session
  if s.closed then return false
  else
    checkPrimary s
    return true

def reconnectIfDue : Act Unit := do
  if !(← session).closed && (← shouldReconnect) then discard reconnect

/-- What is left of closing a session once the lock is held. -/
def emptySlots : Act Unit := do
  let s ← session
  update fun s => { s with primary := none, secondary := none }
  s.primary.forM closeIfOpen
  s.secondary.forM closeIfOpen

theorem side_read (hc : Network.Suffices calls asked) {f : Nat → Desk → α} :
    (read f : Act α).Steps (Side calls asked) :=
  steps_read fun d => .network d.network (hc.refl _)

theorem side_call (hc : Network.Suffices calls asked) (h : Handle) {op : Operation}
    (hop : asked op) : (onNetwork (Calls.invoke h op)).Steps (Side calls asked) :=
  Steps.embed (fun _ n hk => .network n hk) (hc.invoke h op hop)

theorem steps_admits {R : Desk → Desk → Prop} (hrefl : ∀ d, R d d)
    (hdraw : ∀ d, R d ⟨d.session, d.network.drawLot.2⟩) (get : Desk → Repeater) (g ms : Nat) :
    (Repeater.admits get drawLot g ms).Steps R := by
  refine (steps_read hrefl).bind fun x => ?_
  split
  · trivial
  · exact Steps.embed (fun d n hn => hn ▸ hdraw d) (steps_transact fun _ n => rfl)
  · trivial

theorem side_touchPing (hc : Network.Suffices calls asked) :
    touchPing.Steps (Side calls asked) := by
  refine (steps_transact fun _ d => ?_).bind fun armed => steps_forM fun g => trivial
  dsimp only
  split
  · exact .network d.network (hc.refl _)
  · rename_i idle hidle
    split at hidle
    · rename_i hopen
      exact .idle _ hopen.2 hopen.1
    · cases hidle

theorem side_prepare (hc : Network.Suffices calls asked) (op : Operation) :
    (prepare op).Steps (Side calls asked) := by
  have hspawn : spawnReconnect.Steps (Side calls asked) := by
    refine (steps_transact fun _ d => ?_).bind fun fresh => ?_
    · split
      · exact .network d.network (hc.refl _)
      · exact .staff _ true
    · split <;> trivial
  have hcount : (updateOutage fun _ o => o.countQuery).Steps (Side calls asked) :=
    steps_change fun _ _ => .count
  unfold prepare
  refine steps_when hcount ?_
  refine (side_read hc).bind fun s => (side_read hc).bind fun due => ?_
  split
  · exact hspawn
  · trivial

end Act

/-- Whoever comes with a duty reports an operation, if there is one, that broke on a connection:
they have sent it there, or were told so. -/
inductive Duty.Reports (t : List (Change Desk)) : Duty → Handle → Option Operation → Prop
  | sent {failed : Handle} {op : Operation} {e : Change Desk} : e ∈ t →
      e.after.session.journal = .invoke failed op :: e.before.session.journal →
      Reports t (.request (.execute op)) failed (some op)
  | needsFailover (failed : Handle) (op : Option Operation) :
      Reports t (.request (.needsFailover failed op)) failed op
  | handleFailure (failed : Handle) (op : Option Operation) (e : Error) :
      Reports t (.request (.handleFailure failed op e)) failed op

namespace Duty.Reports
variable {duty : Duty} {t t' : List (Change Desk)} {failed h : Handle} {op x : Option Operation}

theorem mono (hr : duty.Reports t failed op) (ht : t <:+ t') : duty.Reports t' failed op := by
  cases hr with
  | sent he hsent => exact .sent (ht.mem he) hsent
  | needsFailover => exact .needsFailover failed op
  | handleFailure => exact .handleFailure failed op _

theorem not_close (hr : duty.Reports t failed op) : duty ≠ .request .close := by
  rintro rfl
  cases hr

theorem operation (hr : duty.Reports t failed op) (hr' : duty.Reports t' h x) : x = op := by
  cases hr <;> cases hr' <;> rfl

end Duty.Reports

/-- The rules admit what a session does without its lock, and whoever takes the lock abides by
them. -/
structure Regime.Admits (ω : Regime) : Prop where
  side : ∀ d d', Side Network.Keeps (fun _ => True) d d' → ω.lockFree d d'
  failover : ∀ duty failed op t d, duty.Reports t failed op →
    (Act.needsFailover failed op).Abides ω duty (fun _ _ _ => True) false t d
  switch : ∀ readOnly t d, (locked () (Act.switchReadOnly readOnly)).Abides ω
    (.request (.switchReadOnly readOnly)) (fun _ _ _ => True) false t d
  reconnect : ∀ t d, (locked () Act.reconnect).Abides ω (.request .reconnect)
    (fun _ _ _ => True) false t d
  close : ∀ t d, Act.close.Abides ω (.request .close) (fun _ _ _ => True) false t d
  background : ∀ t d, (locked () Act.reconnectIfDue).Abides ω (.errand .reconnect)
    (fun _ _ _ => True) false t d
  retry : ∀ g delay t d, (locked () Act.retryRound).Abides ω (.errand (.retry g delay))
    (fun more _ d => more = false → d.session.retryLoop.armed = false) false t d
  ping : ∀ g delay t d, (locked () Act.pingRound).Abides ω (.errand (.ping g delay))
    (fun _ _ _ => True) false t d

namespace Regime.Admits
variable {ω : Regime} {duty : Duty} {t : List (Change Desk)} {d : Desk} {α : Type}

theorem lockFree (hω : ω.Admits) {r : Act α} (h : r.Steps (Side Network.Keeps fun _ => True)) :
    r.Abides ω duty (fun _ _ _ => True) false t d :=
  (Steps.abides (h.mono hω.side)).mono fun _ _ _ _ => trivial

theorem handleFailure (hω : ω.Admits) {failed : Handle} {op : Option Operation}
    (hr : duty.Reports t failed op) (e : Error) :
    (Act.handleFailure failed op e).Abides ω duty (fun _ _ _ => True) false t d :=
  (hω.failover duty failed op t d hr).bind fun _ _ _ _ => ⟨rfl, trivial⟩

theorem invoke (hω : ω.Admits) {x : Handle} (hx : d.session.current = some x) (op : Operation) :
    (Act.invoke x op).Abides ω (.request (.execute op))
      (fun _ t _ => (Duty.request (.execute op)).Reports t x (some op)) false t d := by
  refine Abides.bind (Q := fun _ t _ => (Duty.request (.execute op)).Reports t x (some op))
    (abides_change fun _ => ⟨hω.side _ _ (.invoke x op trivial hx), .sent List.mem_cons_self rfl⟩)
    fun _ t _ hr => ?_
  have hcall : (Act.onNetwork (Calls.invoke x op)).Steps (Side Network.Keeps fun _ => True) :=
    Act.side_call Network.suffices_keeps x trivial
  exact (Steps.abides (hcall.mono hω.side)).mono fun _ _ _ ht => hr.mono ht

theorem execute (hω : ω.Admits) (op : Operation) :
    (Act.execute op).Abides ω (.request (.execute op)) (fun _ _ _ => True) false t d := by
  have hc := Network.suffices_keeps
  refine (hω.lockFree (Act.side_prepare hc op)).bind fun _ t d _ => ?_
  refine Abides.bind (Q := fun s _ d => s = d.session)
    (fun now => ⟨hω.side _ _ (.network d.network (.refl _)), rfl, rfl⟩) fun s t d hs => ?_
  subst hs
  split
  · exact ⟨rfl, trivial⟩
  · rename_i x hx
    refine (hω.invoke hx op).bind fun r t d hr => ?_
    cases r with
    | ok r => exact (hω.lockFree (Act.side_touchPing hc)).bind fun _ _ _ _ => ⟨rfl, trivial⟩
    | error e =>
      dsimp only
      split
      · exact hω.handleFailure hr e
      · exact ⟨rfl, trivial⟩

theorem attended (hω : ω.Admits) {r : Act α} {Q : α → Desk → Prop}
    (hr : ∀ t d, r.Abides ω duty (fun a _ => Q a) false t d)
    (hleave : ∀ now a d, Q a d → Q a ⟨d.session.leave now, d.network⟩) :
    (Act.attended r).Abides ω duty (fun a _ => Q a) false t d := by
  have hjoin : (Act.update fun s => { s with users := s.users + 1 }).Steps
      (Side Network.Keeps fun _ => True) := steps_change fun _ d => .staff _ d.session.reconnecting
  refine (hω.lockFree hjoin).bind fun _ t d _ => ?_
  refine (hr t d).bind fun a t d hq => ?_
  refine Abides.bind (Q := fun _ _ => Q a)
    (abides_change fun now => ⟨hω.side _ _ (.leave now), hleave now a d hq⟩) ?_
  exact fun _ _ _ hq => ⟨rfl, hq⟩

theorem whileUsed (hω : ω.Admits) {r : Act Bool} {Q : Bool → Desk → Prop}
    (hr : ∀ t d, r.Abides ω duty (fun a _ => Q a) false t d)
    (hleave : ∀ now a d, Q a d → Q a ⟨d.session.leave now, d.network⟩)
    (hnone : ∀ d, d.session.users = 0 → Q false d) :
    (Act.whileUsed r).Abides ω duty (fun a _ => Q a) false t d := by
  refine Abides.bind (Q := fun s _ d => s = d.session)
    (fun now => ⟨hω.side _ _ (.network d.network (.refl _)), rfl, rfl⟩) fun s t d hs => ?_
  subst hs
  split
  · rename_i husers
    exact ⟨rfl, hnone d husers⟩
  · exact hω.attended hr hleave

theorem round (hω : ω.Admits) {get : Desk → Repeater} {put : Repeater → Desk → Desk} {g delay : Nat}
    {work : Act Bool} {again : Errand} {Q : Bool → Desk → Prop}
    (hwork : ∀ t d, work.Abides ω duty (fun a _ => Q a) false t d)
    (hput : ∀ d, Q false d → Side Network.Keeps (fun _ => True) d (put ((get d).finish g) d)) :
    (Repeater.round get put Act.drawLot g delay work again).Abides ω duty (fun _ _ _ => True) false
      t d := by
  refine (hω.lockFree (steps_pause delay)).bind fun _ t d _ => ?_
  have hadmits : (Repeater.admits get Act.drawLot g delay).Steps
      (Side Network.Keeps fun _ => True) :=
    Act.steps_admits (fun d => .network d.network (.refl _)) (fun d => .network _ (.of_eq rfl)) get g
      delay
  refine (hω.lockFree hadmits).bind fun begins t d _ => ?_
  split
  · refine (hwork t d).bind fun more t d hq => ?_
    cases more with
    | true => exact ⟨rfl, trivial⟩
    | false =>
      refine Abides.bind (Q := fun _ _ _ => True)
        (abides_change fun _ => ⟨hω.side _ _ (hput d hq), trivial⟩) ?_
      exact fun _ _ _ _ => ⟨rfl, trivial⟩
  · exact ⟨rfl, trivial⟩

theorem request (hω : ω.Admits) (r : Request) (t : List (Change Desk)) :
    Office.Waits ω t (.fresh (.request r)) := by
  intro t' d' _
  refine Abides.bind (Q := fun _ _ _ => True) (Abides.discard ?_) fun _ _ _ _ => ⟨rfl, trivial⟩
  cases r with
  | execute op => exact (hω.execute op).bind fun _ _ _ _ => ⟨rfl, trivial⟩
  | switchReadOnly readOnly => exact (hω.switch readOnly t' d').bind fun _ _ _ _ => ⟨rfl, trivial⟩
  | reconnect => exact (hω.reconnect t' d').bind fun _ _ _ _ => ⟨rfl, trivial⟩
  | needsFailover failed op =>
    exact (hω.failover _ failed op t' d' (.needsFailover failed op)).bind fun _ _ _ _ => ⟨rfl, trivial⟩
  | handleFailure failed op e =>
    exact (hω.handleFailure (.handleFailure failed op e) e).bind fun _ _ _ _ => ⟨rfl, trivial⟩
  | close => exact (hω.close t' d').bind fun _ _ _ _ => ⟨rfl, trivial⟩

/-- Whatever the session does in the background is done by the rules. -/
theorem errand (hω : ω.Admits) (e : Errand) (t : List (Change Desk)) :
    Office.Waits ω t (.fresh (.errand e)) := by
  intro t' d' _
  cases e with
  | reconnect =>
    have hdone : (do
        Act.update fun s => { s with reconnecting := false }
        Act.updateNow Session.leave : Act Unit).Steps (Side Network.Keeps fun _ => True) :=
      Steps.bind (steps_change fun _ d => .staff d.session.users false) fun _ =>
        steps_change fun now _ => .leave now
    refine Abides.bind (Q := fun _ _ _ => True) ?_ fun _ _ _ _ => ⟨rfl, trivial⟩
    exact (hω.background t' d').bind fun _ _ _ _ => hω.lockFree hdone
  | retry g delay =>
    simp only [Clerk.fresh, Duty.work, Errand.body]
    refine hω.round (Q := fun more d => more = false →
        0 < d.session.users → d.session.retryLoop.armed = false)
      (fun t d => hω.whileUsed
        (fun t d => (hω.retry g delay t d).mono fun _ _ _ hq hstop _ => hq hstop)
        (fun now more d hq hstop hused => ?_) fun d hnone _ hused => ?_) fun d hq => .ended g (hq rfl)
    · unfold Session.leave
      dsimp only
      split
      · exact Repeater.armed_cancel now _
      · exact hq hstop (by omega)
    · omega
  | ping g delay =>
    simp only [Clerk.fresh, Duty.work, Errand.body]
    exact hω.round (Q := fun _ _ => True)
      (fun t d => hω.whileUsed (hω.ping g delay) (fun _ _ _ _ => trivial) fun _ _ => trivial)
      fun _ _ => .rested g

end Regime.Admits

theorem Office.Kept.of_rest {ω : Regime} {t : List (Change Desk)} {o : Office} (hω : ω.Admits)
    (hbusy : o.busy = none) (hkeeper : o.keeper = none)
    (hidle : ∀ c ∈ o.idle, ∃ e, c = .fresh (.errand e)) (hin : ω.inOrder t o.desk) : o.Kept ω t := by
  refine ⟨fun c hc => ?_, fun c holds hc => ?_, fun c hc => ?_, fun c hc => ?_, fun _ => hin⟩
  · obtain ⟨e, rfl⟩ := hidle c hc
    exact hω.errand e t
  · rw [hbusy] at hc
    cases hc
  · rw [hkeeper] at hc
    cases hc
  · rw [hbusy] at hc
    cases hc

end Failover
