import Failover.Proofs.Search.Result
import Failover.Proofs.Session.RoutingKept
import Failover.Session.Recovery

/-!
The operations that a session sends, by the log of what it did, and all that it does without sending
any.
-/
namespace Failover

/-- The operation that a change sends, and over which connection, if it is the routine's own. -/
def Change.sending? (e : Change Desk) : Option (Handle × Operation) :=
  match e.own, e.after.session.journal with
  | true, .invoke h op :: earlier =>
    if earlier = e.before.session.journal then some (h, op) else none
  | _, _ => none

/-- The operations that a routine sends by its log, the latest first. -/
def sendings (t : List (Change Desk)) : List (Handle × Operation) := t.filterMap Change.sending?

def Quiet (t t' : List (Change Desk)) : Prop := ∃ es, t' = es ++ t ∧ sendings es = []

section Quiet
variable {t t' t'' : List (Change Desk)} {d d' : Desk}

theorem Quiet.refl (t : List (Change Desk)) : Quiet t t := ⟨[], rfl, rfl⟩

theorem Quiet.cons (h : Quiet t t') {e : Change Desk} (he : e.sending? = none) :
    Quiet t (e :: t') := by
  obtain ⟨es, rfl, hes⟩ := h
  exact ⟨e :: es, rfl, by rw [sendings, List.filterMap_cons_none he]; exact hes⟩

theorem sending?_of_unsent (h : d.Unsent d') (now : Nat) :
    Change.sending? ⟨true, now, d, d'⟩ = none := by
  unfold Change.sending?
  split
  · rename_i c op earlier hown hj
    split
    · rename_i he
      subst he
      exact (h c op hj).elim
    · rfl
  · rfl

theorem not_sending_of_unsent (h : d.Unsent d') {now : Nat} {c : Handle} {op : Operation}
    (hsend : Change.sending? ⟨true, now, d, d'⟩ = some (c, op)) : False := by
  rw [sending?_of_unsent h now] at hsend
  cases hsend

theorem journal_of_sending? {e : Change Desk} {h : Handle} {op : Operation}
    (he : e.sending? = some (h, op)) :
    e.after.session.journal = .invoke h op :: e.before.session.journal := by
  unfold Change.sending? at he
  split at he
  · rename_i c o earlier _ hj
    split at he
    · rename_i hearlier
      cases he
      rw [hj, hearlier]
    · cases he
  · cases he

theorem sendings_of_quiet (h : Quiet t t') : sendings t' = sendings t := by
  obtain ⟨es, rfl, hes⟩ := h
  rw [sendings] at hes
  rw [sendings, List.filterMap_append, hes]
  rfl

end Quiet

namespace Act
open Desk Routine

section Unsent

theorem steps_note {deed : Deed} (h : ∀ c op, deed ≠ .invoke c op) : (note deed).Steps Unsent :=
  steps_change fun _ _ _ _ hj => h _ _ (List.cons.inj hj).1

theorem unsent_of_coreUnsent {α : Type} {r : Act α} (h : r.Steps CoreUnsent) : r.Steps Unsent :=
  h.mono fun _ _ hs => hs.unsent

theorem unsent_update {f : Session → Session} (hj : ∀ s, (f s).journal = s.journal) :
    (update f).Steps Unsent :=
  steps_change fun _ d => .of_eq (hj d.session)

theorem unsent_of_routeUnsent {α : Type} {r : Act α} (h : r.Steps RouteUnsent) : r.Steps Unsent :=
  h.mono fun _ _ hs => hs.unsent

theorem unsent_session : session.Steps Unsent := unsent_of_coreUnsent steps_session

theorem unsent_onNetwork {α : Type} {r : NetRoutine Unit Errand α} (h : r.Steps Network.Grows) :
    (onNetwork r).Steps Unsent :=
  unsent_of_coreUnsent (steps_onNetwork h)

theorem unsent_sync (source dest : Handle) : (sync source dest).Steps Unsent :=
  (steps_note (by simp)).bind fun _ => unsent_onNetwork (Carryover.keeps_sync source dest).grows

theorem unsent_trySync (source dest : Handle) : (trySync source dest).Steps Unsent :=
  (unsent_sync source dest).discard

theorem unsent_turnTo (slot : Active) (left : Option Handle) (h : Handle) :
    (turnTo slot left h).Steps Unsent :=
  (steps_forM fun c => unsent_trySync c h).bind fun _ => unsent_update fun _ => rfl

theorem unsent_found (role : Role) (h : Handle) : (found role h).Steps Unsent :=
  Finds.found ⟨fun _ => .of_eq rfl, unsent_trySync,
    fun h f => unsent_onNetwork (Calls.steps_updateConnection h f),
    fun h => unsent_onNetwork (Carryover.keeps_setReadOnly h true).grows,
    fun h => unsent_onNetwork (Calls.steps_close h), fun _ _ _ => .of_eq rfl,
    fun _ _ _ => .of_eq rfl⟩ role h

theorem unsent_search (needs : Needs) : (search needs).Steps Unsent := by
  refine (steps_note (by simp)).bind fun _ => ?_
  refine (steps_change fun _ d => .of_eq rfl).bind fun _ => ?_
  refine unsent_session.bind fun s => ?_
  refine (steps_read fun d => .of_eq rfl).bind fun b => ?_
  refine Search.steps_twoPass ⟨fun size => ?_, fun h => ?_, fun c => ?_, fun c => ?_, fun h => ?_,
    unsent_found⟩ b s.topology.hosts needs
  · exact unsent_onNetwork (steps_transact fun _ n => Nat.le_refl _)
  · exact (steps_note (by simp)).bind fun _ => unsent_onNetwork (Calls.steps_connect h)
  · exact unsent_onNetwork (Calls.keeps_role _ c).grows
  · exact unsent_onNetwork (Calls.steps_close c)
  · exact unsent_onNetwork (steps_change fun _ n => by simp [Network.Grows])

theorem unsent_seek (needs : Needs) : (seek needs).Steps Unsent := by
  unfold seek
  split
  · trivial
  · exact (unsent_search needs).bind fun _ => trivial

theorem unsent_reconnectSingle : reconnectSingle.Steps Unsent :=
  (unsent_of_routeUnsent (steps_updateOutage _)).bind fun _ => unsent_seek _

theorem unsent_reconnectReplicated : reconnectReplicated.Steps Unsent := by
  refine (unsent_of_routeUnsent (steps_updateOutage _)).bind fun _ => unsent_session.bind fun s => ?_
  split
  · trivial
  · exact unsent_seek _

end Unsent

abbrev anything (others : Desk → Desk → Prop) : Rules Desk := ⟨others, fun _ _ => True⟩

theorem ensures_quiet {others : Desk → Desk → Prop} {t₀ t : List (Change Desk)} {d : Desk} {α : Type}
    {r : Act α} (hr : r.Steps Unsent) (hq : Quiet t₀ t) :
    r.Ensures (anything others) (fun _ t' _ => Quiet t₀ t') t d :=
  hr.ensures (fun _ _ _ _ hq _ => hq.cons rfl)
    (fun _ _ _ now hq ht => ⟨trivial, hq.cons (sending?_of_unsent ht now)⟩) hq

end Act
end Failover
