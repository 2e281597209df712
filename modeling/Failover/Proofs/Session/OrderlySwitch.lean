import Failover.Proofs.Session.OrderlyRecovery
import Failover.Session.Routing

/-!
A read-only switch leaves a session in order, unless it ends with an error that is no refusal: then
the request has changed, and the session serves where it did.
-/
namespace Failover
open Desk Routine

def Unrefused {α : Type} (x : Except Error α) : Prop :=
  x ≠ .error .inTransaction ∧ x ≠ .error .noPrimaryAvailable

namespace Calls
variable {ℓ κ : Type}

theorem unrefused_ok {α : Type} (a : α) : Unrefused (.ok a) := ⟨nofun, nofun⟩

theorem unrefused_of_server {α : Type} {h : Handle} {n : Network} {e : Error}
    (he : n.server h = .error e) : Unrefused (.error e : Except Error α) := by
  unfold Network.server at he
  dsimp only at he
  split at he
  · cases he
    exact ⟨nofun, nofun⟩
  · split at he
    · cases he
    · cases he
      exact ⟨nofun, nofun⟩

theorem unrefused_onHandle {α : Type} {c : Call} {h : Handle} {no : Option α}
    {real : Network → Except Error α × Network} (call : ∀ n, Unrefused (real n).1) :
    (onHandle c h no real : NetRoutine ℓ κ (Except Error α)).Answers Unrefused := by
  refine answers_bind _ fun host => answers_bind _ fun met => ?_
  obtain ⟨delay, trouble⟩ := met
  refine answers_bind _ fun _ => ?_
  split
  · exact ⟨nofun, nofun⟩
  · exact ⟨nofun, nofun⟩
  · exact ⟨nofun, nofun⟩
  · exact unrefused_ok _
  · exact fun _ => call

theorem unrefused_execute (h : Handle) (sql : String) :
    (execute h sql : NetRoutine ℓ κ (Except Error QueryResult)).Answers Unrefused := by
  refine unrefused_onHandle fun n => ?_
  unfold Network.execute
  split
  · rename_i he
    exact unrefused_of_server he
  · dsimp only
    split
    · exact ⟨nofun, nofun⟩
    · split <;> exact unrefused_ok _

theorem unrefused_setIsolation (h : Handle) (level : Isolation) :
    (setIsolation h level : NetRoutine ℓ κ (Except Error Unit)).Answers Unrefused := by
  refine unrefused_onHandle fun n => ?_
  unfold Network.setIsolation
  split
  · rename_i he
    exact unrefused_of_server he
  · exact unrefused_ok _

theorem unrefused_selectDatabase (h : Handle) (name : String) :
    (selectDatabase h name : NetRoutine ℓ κ (Except Error Unit)).Answers Unrefused := by
  refine unrefused_onHandle fun n => ?_
  unfold Network.selectDatabase
  split
  · rename_i he
    exact unrefused_of_server he
  · exact unrefused_ok _

end Calls

theorem Routine.unrefused_thenOk {σ ℓ κ α β : Type} {r : Routine σ ℓ κ (Except Error α)}
    {f : α → Routine σ ℓ κ (Except Error β)} (h : r.Answers Unrefused)
    (hf : ∀ a, (f a).Answers Unrefused) : (r.thenOk f).Answers Unrefused := by
  refine h.bind fun x hx => ?_
  cases x with
  | error e => exact ⟨fun he => hx.1 (by cases he; rfl), fun he => hx.2 (by cases he; rfl)⟩
  | ok a => exact hf a

theorem Routine.unrefused_onSome {σ ℓ κ β : Type} {o : Option β}
    {f : β → Routine σ ℓ κ (Except Error Unit)} (hf : ∀ b, (f b).Answers Unrefused) :
    (onSome o f).Answers Unrefused := by
  cases o with
  | none => exact Calls.unrefused_ok ()
  | some b => exact hf b

theorem Carryover.unrefused_sync {ℓ κ : Type} (source dest : Handle) :
    (sync source dest : NetRoutine ℓ κ (Except Error Unit)).Answers Unrefused := by
  refine answers_bind _ fun _ => answers_bind _ fun isolation => ?_
  refine unrefused_thenOk (unrefused_onSome fun _ => Calls.unrefused_setIsolation dest _)
    fun _ => answers_bind _ fun database => ?_
  refine unrefused_thenOk (unrefused_onSome fun _ => Calls.unrefused_selectDatabase dest _)
    fun _ => answers_bind _ fun found => ?_
  obtain ⟨wanted, present⟩ := found
  dsimp only
  split
  · exact Calls.unrefused_ok ()
  · exact unrefused_thenOk (Calls.unrefused_execute dest _) fun _ => Calls.unrefused_ok ()

theorem Order.blame {ς : Outsiders} {loose : List Handle} {t : List (Change Desk)} {d : Desk}
    (h : Order ς loose { misrouted := true } t d) (hb : Botched ς t) : Order ς loose {} t d :=
  ⟨h.shut, h.known, h.well, fun _ _ _ => .inl hb, h.watched, h.tidy⟩

namespace Act
variable {ς : Outsiders} {s : Session} {loose : List Handle} {debt : Debt}
  {t : List (Change Desk)} {d : Desk} {readOnly : Bool}

def Switched (ς : Outsiders) (x : Except Error Unit) (t : List (Change Desk)) (d : Desk) : Prop :=
  Order ς [] {} t d ∨ Order ς [] { misrouted := true } t d ∧ (∃ e, x = .error e) ∧ Unrefused x

theorem orderly_syncSlot (slot : Option Handle) (x : Handle) (h : Held ς s loose debt t d) :
    (Routine.onSome slot fun c => sync c x).Ensures (watch ς)
      (fun r t d => Unrefused r ∧ Held ς s loose debt t d) t d := by
  refine (orderly_harmless (steps_onSome fun c => harmless_sync c x) h).answers ?_
  refine unrefused_onSome fun c => answers_bind _ fun _ => ?_
  exact (Carryover.unrefused_sync c x).embed

theorem orderly_turn {slot : Option Handle} {x : Handle} {a : Active}
    {rest : Act (Except Error Unit)} (h : Held ς s [] { misrouted := true } t d)
    (ha : s.slot a ≠ none) (hp : s.policy = .replicated)
    (hrouted : ({ s with active := a } : Session).Routed) (hrest : rest.Steps Harmless) :
    ((Routine.onSome slot fun c => sync c x).thenOk fun _ => do
      update fun s => { s with active := a }
      rest).Ensures (watch ς) (Switched ς) t d := by
  refine ensures_thenOk.2 ((orderly_syncSlot slot x h).mono fun r t d hd => ?_)
  obtain ⟨hr, h⟩ := hd
  cases r with
  | error e => exact .inr ⟨h.toOrder, ⟨e, rfl⟩, hr⟩
  | ok _ =>
    refine ensures_bind.2 (ensures_change.2 fun now => ?_)
    have hsingle : s.policy ≠ .single := by simp [hp]
    obtain ⟨hfair, h⟩ := h.turn now ha (fun hs => (hsingle hs).elim) hrouted
    exact ⟨fun hc => ⟨hc, hfair⟩, (orderly_rest hrest h).mono fun _ _ _ h => .inl h⟩

theorem orderly_moveToSecondary {s₀ : Session} (h : Held ς s [] { misrouted := true } t d)
    (hp : s.policy = .replicated) (hr : s.outage.readOnlyRequested = true)
    (hactive : s₀.active = s.active) (hslot : s₀.slot = s.slot) (hfailed : s₀.failed = s.failed) :
    (moveToSecondary s₀).Ensures (watch ς) (Switched ς) t d := by
  have hsecondary : s₀.secondary = s.slot .secondary := by rw [← hslot, Session.slot]
  have hgood : s₀.outage.secondaryFailed = s.failed .secondary := by rw [← hfailed, Session.failed]
  unfold moveToSecondary
  split
  · rename_i x _ _ hx
    have hrouted : ({ s with active := .secondary } : Session).Routed := by
      refine ⟨fun _ => .inl hr, fun ha => ?_⟩
      cases ha
    refine orderly_turn h ?_ hp hrouted (harmless_onNetwork (Carryover.keeps_setReadOnly x true))
    rw [← hsecondary, hx]
    simp
  · rename_i hstay
    refine .inl (h.reroute fun hc _ => ⟨fun _ => .inl hr, fun ha _ => ?_⟩).toOrder
    by_contra hf
    have hfalse : s.failed .secondary = false := Bool.eq_false_iff.2 hf
    cases hx : s.slot .secondary with
    | none =>
      rw [(h.wellAt hc rfl).vacant hp _ hx] at hfalse
      cases hfalse
    | some x =>
      exact hstay x (hactive.trans ha) (hgood.trans hfalse) (hsecondary.trans hx)

theorem orderly_awaitPrimary (h : Held ς s [] {} t d) :
    awaitPrimary.Ensures (watch ς) (fun _ => Order ς [] {}) t d := by
  have hgiveUp {s : Session} {t : List (Change Desk)} {d : Desk} (h : Held ς s [] {} t d) : (do
      armRetry retryPeriod
      return .error .noPrimaryAvailable : Act (Except Error Unit)).Ensures (watch ς)
      (fun _ => Order ς [] {}) t d :=
    (orderly_armRetry retryPeriod h).bind fun _ _ _ h => h.toOrder
  refine (orderly_harmless harmless_read h).bind fun s₁ t d h => ?_
  split
  · refine (orderly_reconnectReplicated h).bind fun x t d hd => ?_
    obtain ⟨s', -, h⟩ := hd
    cases x with
    | ok _ => exact h.toOrder
    | error e =>
      refine (orderly_harmless harmless_read h).bind fun s₁ t d h => ?_
      split
      · exact h.toOrder
      · exact hgiveUp h
  · exact hgiveUp h

theorem orderly_moveToPrimary {s₀ : Session} (h : Held ς s [] { misrouted := true } t d)
    (hp : s.policy = .replicated) (hr : s.outage.readOnlyRequested = false)
    (hactive : s₀.active = s.active) (hslot : s₀.slot = s.slot) (hfailed : s₀.failed = s.failed) :
    (moveToPrimary s₀).Ensures (watch ς) (Switched ς) t d := by
  have hwritable (s : Session) (hs : s.outage.readOnlyRequested = false)
      (hd : s.active = .secondary → s.outage.primaryFailed = true) : s.Routed := by
    refine ⟨fun ha => .inr (hd ha), fun _ ho => ?_⟩
    rw [hs] at ho
    cases ho
  have hprimary : s₀.primary = s.slot .primary := by rw [← hslot, Session.slot]
  have hgood : s₀.outage.primaryFailed = s.failed .primary := by rw [← hfailed, Session.failed]
  unfold moveToPrimary
  split
  · rename_i ha
    refine .inl (h.reroute fun _ _ => hwritable s hr fun hd => ?_).toOrder
    rw [← hactive, ha] at hd
    cases hd
  · rename_i p _ _ hx
    have hrouted : ({ s with active := .primary } : Session).Routed := by
      refine hwritable _ hr fun ha => ?_
      cases ha
    refine orderly_turn h ?_ hp hrouted trivial
    rw [← hprimary, hx]
    simp
  · rename_i ha hstay
    refine (orderly_awaitPrimary (h.reroute fun hc _ => hwritable s hr fun _ => ?_)).mono
      fun _ _ _ h => .inl h
    by_contra hf
    have hfalse : s.failed .primary = false := Bool.eq_false_iff.2 hf
    cases hx : s.slot .primary with
    | none =>
      rw [(h.wellAt hc rfl).vacant hp _ hx] at hfalse
      cases hfalse
    | some x => exact hstay x (hgood.trans hfalse) (hprimary.trans hx)

theorem orderly_switchReplicated (h : Held ς s [] {} t d) (hp : s.policy = .replicated) :
    (switchReplicated readOnly).Ensures (watch ς) (Switched ς) t d := by
  refine orderly_session h fun t h' => ?_
  have hp' : d.session.policy = .replicated := (Session.policy_of_core h.core).trans hp
  split
  · exact .inl h'.toOrder
  · refine (orderly_harmless harmless_read h').bind fun busy t d' h' => ?_
    split
    · exact .inl h'.toOrder
    · refine (orderly_setReadOnly readOnly h').bind fun _ t d' h' => ?_
      split
      · rename_i hr
        exact orderly_moveToSecondary h' hp' hr rfl rfl rfl
      · rename_i hr
        exact orderly_moveToPrimary h' hp' (Bool.eq_false_iff.2 hr) rfl rfl rfl

theorem harmless_tell (slot : Option Handle) (readOnly : Bool) :
    (Routine.onSome slot fun x =>
      (onNetwork (Carryover.setReadOnly x readOnly)).thenOk fun _ => do
        onNetwork (change fun _ n =>
          n.updateConnection x fun c => { c with readOnly := readOnly })
        return .ok () : Act (Except Error Unit)).Steps Harmless := by
  refine steps_onSome fun x => ?_
  refine (harmless_onNetwork (Carryover.keeps_setReadOnly x readOnly)).thenOk fun _ => ?_
  refine (harmless_onNetwork (Calls.keeps_settings (fun _ _ => ?_) x)).bind fun _ => trivial
  rfl

theorem orderly_switchSingle (h : Held ς s [] {} t d) (hp : s.policy = .single) :
    (switchSingle readOnly).Ensures (watch ς) (fun _ => Order ς [] {}) t d := by
  refine (orderly_harmless harmless_read h).bind fun s₁ t d h => ?_
  refine (orderly_harmless harmless_read h).bind fun busy t d h => ?_
  split
  · exact h.toOrder
  · refine ensures_thenOk.2
      ((orderly_harmless (harmless_tell s₁.primary readOnly) h).mono fun x t d h => ?_)
    cases x with
    | error e => exact h.toOrder
    | ok _ =>
      refine (orderly_setReadOnly readOnly h).bind fun _ t d h => ?_
      refine (h.reroute fun _ hr => ?_).toOrder
      rw [show s.policy = .replicated from hr] at hp
      cases hp

theorem orderly_switchReadOnly (h : Order ς [] {} t d) :
    (switchReadOnly readOnly).Ensures (watch ς) (fun _ => Order ς [] {}) t d := by
  cases hp : d.session.policy with
  | single =>
    refine orderly_session (.of_order h) fun t h => ?_
    rw [hp]
    exact orderly_switchSingle h hp
  | replicated =>
    have hswitch : (switchReadOnly readOnly).Ensures (watch ς) (Switched ς) t d := by
      refine orderly_session (.of_order h) fun t h => ?_
      rw [hp]
      exact orderly_switchReplicated h hp
    refine hswitch.and_plays.mono fun x t' d' hd => ?_
    obtain ⟨hx | ⟨hx, ⟨e, rfl⟩, hbusy, hnone⟩, hplay⟩ := hd
    · exact hx
    · refine hx.blame ⟨readOnly, t, d, e, t', d', hp, hplay, fun he => hbusy ?_, fun he => hnone ?_,
        List.suffix_refl t'⟩
      · rw [he]
      · rw [he]

end Act
end Failover
