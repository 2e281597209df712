import Failover.Proofs.Office.Requests
import Failover.Proofs.Session.LawfulRecovery

/-!
All that callers ask of a session, and all that it does in the background, keeps to the rules: a
change of the routing is made under the lock, and there it is lawful.
-/
namespace Failover
open Desk Routine

namespace Act
variable {duty : Duty} {d₀ d : Desk} {t : List (Change Desk)}

section Routing

theorem steps_switchSingle (readOnly : Bool) : (switchSingle readOnly).Steps RouteUnsent := by
  refine (routeUnsent_of_coreUnsent steps_session).bind fun s => ?_
  refine (routeUnsent_of_coreUnsent (steps_inTransaction s.primary)).bind fun busy => ?_
  split
  · trivial
  · refine (steps_onSome fun h => ?_).thenOk fun _ => (steps_updateOutage _).bind fun _ => trivial
    refine (routeUnsent_of_coreUnsent
      (steps_onNetwork (Carryover.keeps_setReadOnly h readOnly).grows)).thenOk
      fun _ => ?_
    exact (routeUnsent_of_coreUnsent (steps_onNetwork (Calls.steps_updateConnection h _))).bind
      fun _ => trivial

theorem lawful_turn {slot : Option Handle} {h : Handle} {other : Active}
    {rest : Act (Except Error Unit)} (hs : Sound d) (hx : Excused duty t d)
    (hh : h < d.network.connections.size)
    (hslot : ∀ a, d.session.current = some a → slot = some a) (hother : d.session.active ≠ other)
    (hcurrent : ({ d.session with active := other } : Session).current = some h)
    (hrest : rest.Steps CoreUnsent) :
    ((Routine.onSome slot fun c => sync c h).thenOk fun _ => do
      update fun s => { s with active := other }
      rest).Ensures (house.rules duty) (fun _ _ d => Sound d) t d := by
  have hsync := lawful_syncSlot slot hs hx hh hslot
  refine ensures_thenOk.2 (hsync.mono fun x t' d' hm => ?_)
  cases x with
  | error e => exact hm.sound
  | ok _ =>
    refine ensures_bind.2 (ensures_change.2 fun now => ⟨hm.turn hother hcurrent now, ?_⟩)
    exact ensures_coreUnsent hrest lasting_sound.stable (hm.sound.turn other)

theorem lawful_moveToSecondary {s : Session} (hroute : s.route = d₀.session.route)
    (h : Settled d₀ t d) (hx : Excused duty t d) :
    (moveToSecondary s).Ensures (house.rules duty) (fun _ _ d => Sound d) t d := by
  obtain ⟨-, -, hprimary, hsecondary, hactive⟩ :=
    Session.fields_of_route (h.route.trans hroute.symm)
  unfold moveToSecondary
  split
  · rename_i c hprim _ hc
    rw [hprim] at hactive
    rw [hc] at hsecondary
    refine lawful_turn h.sound hx (h.sound.secondary c hsecondary) (fun a ha => ?_)
      (by simp [hactive]) hsecondary (steps_onNetwork (Carryover.keeps_setReadOnly c true).grows)
    rw [Session.current, hactive] at ha
    exact hprimary.symm.trans ha
  · exact h.sound

theorem lawful_awaitPrimary (h : Settled d₀ t d) (hx : Excused duty t d) :
    awaitPrimary.Ensures (house.rules duty) (fun _ _ d => Sound d) t d := by
  have hgive {t : List (Change Desk)} {d : Desk} (hs : Sound d) : (do
      armRetry retryPeriod
      return .error .noPrimaryAvailable : Act (Except Error Unit)).Ensures (house.rules duty)
      (fun _ _ d => Sound d) t d :=
    (ensures_coreUnsent (steps_armRetry retryPeriod) lasting_sound.stable hs).bind fun _ _ _ hs => hs
  refine ensures_session ((lasting_settled d₀).and (permanent_excused duty).lasting).stable
    ⟨h, hx⟩ fun t hp => ?_
  obtain ⟨h, hx⟩ := hp
  split
  · refine (lawful_reconnectReplicated (h.loose hx)).bind fun x t d hl => ?_
    cases x with
    | ok _ => exact hl.sound
    | error e =>
      refine ensures_session lasting_sound.stable hl.sound fun t hs => ?_
      split
      · exact hs
      · exact hgive hs
  · exact hgive h.sound

theorem lawful_moveToPrimary {s : Session} (hroute : s.route = d₀.session.route)
    (h : Settled d₀ t d) (hx : Excused duty t d) :
    (moveToPrimary s).Ensures (house.rules duty) (fun _ _ d => Sound d) t d := by
  obtain ⟨-, -, hprimary, hsecondary, hactive⟩ :=
    Session.fields_of_route (h.route.trans hroute.symm)
  unfold moveToPrimary
  split
  · exact h.sound
  · rename_i p hsec _ hp
    rw [hsec] at hactive
    rw [hp] at hprimary
    refine lawful_turn h.sound hx (h.sound.primary p hprimary) (fun a ha => ?_)
      (by simp [hactive]) hprimary trivial
    rw [Session.current, hactive] at ha
    exact hsecondary.symm.trans ha
  · exact lawful_awaitPrimary h hx

theorem lawful_switchReplicated (readOnly : Bool) (h : Settled d₀ t d) :
    (switchReplicated readOnly).Ensures (house.rules duty) (fun _ _ d => Sound d) t d := by
  refine ensures_session (lasting_settled d₀).stable h fun t h => ?_
  split
  · exact h.sound
  · refine (lawful_inTransaction _ (lasting_settled d₀).stable h).bind
      fun busy t d' hd => ?_
    obtain ⟨h', hbusy⟩ := hd
    cases busy with
    | true => exact h'.sound
    | false =>
      have hfree : Free t d' := h'.free (fun a ha => h.current.trans ha) (hbusy rfl)
      refine (ensures_routeUnsent (steps_updateOutage _)
        ((lasting_settled d₀).and permanent_free.lasting) ⟨h', hfree⟩).bind fun _ t d' hd => ?_
      obtain ⟨h', hfree⟩ := hd
      split
      · exact lawful_moveToSecondary h.route h' hfree.excused
      · exact lawful_moveToPrimary h.route h' hfree.excused

theorem lawful_switchReadOnly (readOnly : Bool) (h : Settled d₀ t d) :
    (switchReadOnly readOnly).Ensures (house.rules duty) (fun _ _ d => Sound d) t d := by
  refine ensures_session (lasting_settled d₀).stable h fun t h => ?_
  split
  · exact ensures_routeUnsent (steps_switchSingle readOnly) lasting_sound h.sound
  · exact lawful_switchReplicated readOnly h

end Routing

section Background

theorem lawful_shouldReconnect {e : Errand} (h : Settled d₀ t d)
    (hc : d.session.core = d₀.session.core) :
    shouldReconnect.Ensures (house.rules (.errand e))
      (fun x t d => Settled d₀ t d ∧ (x = true → Excused (.errand e) t d)) t d := by
  refine ensures_read.2 fun now => ⟨.of_routeUnsent (CoreUnsent.refl d).routeUnsent, ?_⟩
  have h' := lasting_settled d₀ t d d true now h (SameCore.refl d).sameRoute
  refine ⟨h', fun hdue a ha ht => ?_⟩
  rw [h'.start] at ha
  unfold Desk.shouldReconnect at hdue
  split at hdue
  · rename_i hp
    refine .inr (.inr ⟨⟨e, rfl⟩, ?_, ?_⟩)
    · rw [h'.start]
      exact h.policy.symm.trans hp
    · rw [h'.start, ← Session.of_core (·.outage.primaryFailed) (fun _ => rfl) hc]
      exact (Bool.and_eq_true_iff.1 hdue).1
  · have hbusy : d.inTransaction = true := by
      rw [Desk.inTransaction, h.current, ha]
      exact ht.1.inTransaction
    simp [Outage.shouldReconnectReplicated, hbusy] at hdue

theorem steps_stopRetry : stopRetry.Steps CoreUnsent := by
  refine (steps_updateNow (fun _ _ => ?_) fun _ _ => ?_).bind fun _ => trivial <;> rfl

theorem steps_retryAgain : retryAgain.Steps CoreUnsent := by
  refine steps_session.bind fun s => ?_
  split
  · exact steps_stopRetry
  · trivial

theorem lawful_retryRound (e : Errand) (d₀ : Desk) (hs : Sound d₀) :
    retryRound.Ensures (house.rules (.errand e)) (fun _ _ d => Sound d) [] d₀ := by
  have hstable := (lasting_settled d₀).stable.and (stable_core d₀.session)
  have hstill {r : Act Bool} (hr : r.Steps CoreUnsent) {t : List (Change Desk)} {d : Desk}
      (hs : Sound d) : r.Ensures (house.rules (.errand e)) (fun _ _ d => Sound d) t d :=
    ensures_coreUnsent hr lasting_sound.stable hs
  refine ensures_session hstable ⟨⟨rfl, hs, rfl⟩, rfl⟩ fun t hp => ?_
  obtain ⟨h, hc⟩ := hp
  split
  · exact hstill steps_stopRetry h.sound
  · refine (lawful_shouldReconnect h hc).bind fun due t d hd => ?_
    obtain ⟨h, hx⟩ := hd
    cases due with
    | false => exact hstill steps_retryAgain h.sound
    | true =>
      refine (lawful_reconnect (h.loose (hx rfl))).bind fun x t d hl => ?_
      cases x with
      | ok _ => exact hstill steps_stopRetry hl.sound
      | error e => exact hstill steps_retryAgain hl.sound

theorem lawful_checkPrimary {s : Session} {g delay : Nat} (h : Settled d₀ t d)
    (hs : s.route = d₀.session.route) :
    (checkPrimary s).Ensures (house.rules (.errand (.ping g delay))) (fun _ _ d => Sound d) t d := by
  unfold checkPrimary
  split
  · rename_i p _ hp
    have hslot : d.session.primary = some p :=
      h.primary.trans ((Session.fields_of_route hs).2.2.1.symm.trans hp)
    refine (ensures_coreUnsent (steps_onNetwork (Health.keeps_ofPrimaryWithin (pingLimit s) p).grows)
      (lasting_settled d₀).stable h).and_plays.bind fun r t' d' hd => ?_
    obtain ⟨h, hplay⟩ := hd
    have hleave {t' : List (Change Desk)} {d' : Desk} (h : Settled d₀ t' d')
        (hx : Excused (.errand (.ping g delay)) t' d') :
        (do failPrimary p; discard (primaryFailReplicated none false) : Act Unit).Ensures
          (house.rules (.errand (.ping g delay))) (fun _ _ d => Sound d) t' d' :=
      (ensures_routeUnsent (steps_failPrimary p)
        ((lasting_settled d₀).and (permanent_excused _).lasting)
        ⟨h, hx⟩).bind fun _ _ _ h => (lawful_primaryFailUnasked h.1 h.2).discard
    split
    · exact h.sound
    · rename_i hr
      exact hleave h fun _ _ _ => .inr (.inl ⟨⟨g, delay, rfl⟩, p, _, t, d, r, t', d', hslot, hplay,
        hr, List.suffix_refl t'⟩)
  · exact h.sound

theorem lawful_pingRound (g delay : Nat) (d₀ : Desk) (hs : Sound d₀) :
    pingRound.Ensures (house.rules (.errand (.ping g delay))) (fun _ _ d => Sound d) [] d₀ := by
  refine ensures_session (lasting_settled d₀).stable ⟨rfl, hs, rfl⟩ fun t h => ?_
  split
  · exact h.sound
  · exact (lawful_checkPrimary h h.route).bind fun _ _ _ hs => hs

theorem lawful_reconnectIfDue (e : Errand) (d₀ : Desk) (hs : Sound d₀) :
    reconnectIfDue.Ensures (house.rules (.errand e)) (fun _ _ d => Sound d) [] d₀ := by
  have hstable := (lasting_settled d₀).stable.and (stable_core d₀.session)
  refine ensures_session hstable ⟨⟨rfl, hs, rfl⟩, rfl⟩ fun t hp => ?_
  obtain ⟨h, hc⟩ := hp
  refine (lawful_shouldReconnect h hc).bind fun due t d' hd => ?_
  obtain ⟨h', hx⟩ := hd
  split
  · rename_i hdue
    have hl := h'.loose (hx (Bool.and_eq_true_iff.1 hdue).2)
    exact (lawful_reconnect hl).discard.mono fun _ _ _ hl => hl.sound
  · exact h'.sound

end Background

section Closing

theorem lawful_emptySlots (d₀ : Desk) (hs : Sound d₀) :
    emptySlots.Ensures (house.rules duty) (fun _ _ d => Sound d) [] d₀ := by
  have hclose (h : Handle) : (closeIfOpen h).Steps CoreUnsent := by
    refine steps_onNetwork (steps_change fun _ n => ?_)
    split
    · exact Nat.le_refl _
    · simp [Network.Grows, Network.close]
  refine ensures_session lasting_sound.stable hs fun t hs => ?_
  refine ensures_bind.2 (ensures_change.2 fun now => ⟨?_, ?_⟩)
  · have hgone (b : Handle) :
        ({ d₀.session with primary := none, secondary := none } : Session).current ≠ some b := by
      unfold Session.current
      split <;> simp
    refine ⟨fun _ b _ hb => (hgone b hb).elim, fun _ b _ hb => (hgone b hb).elim,
      fun _ b _ hb => (hgone b hb).elim, fun _ _ hsend => ?_⟩
    have htacit : Unsent d₀ ⟨{ d₀.session with primary := none, secondary := none }, d₀.network⟩ :=
      .of_eq rfl
    exact (not_sending_of_unsent htacit hsend).elim
  · refine ensures_coreUnsent ((steps_forM hclose).bind fun _ => steps_forM hclose)
      lasting_sound.stable ⟨?_, ?_, hs.syncs, fun _ => rfl⟩
    · intro h hd
      cases hd
    · intro h hd
      cases hd

end Closing

end Act

/-- All that a session does without its lock leaves its route alone. -/
theorem Desk.Side.sameCore {asked : Operation → Prop} {d d' : Desk}
    (h : Side Network.Keeps asked d d') : SameCore d d' := by
  cases h with
  | network n hk => exact ⟨rfl, rfl, hk.grows⟩
  | count => exact ⟨Session.core_countQuery d.session, rfl, Nat.le_refl _⟩
  | leave =>
    unfold Session.leave
    dsimp only
    split <;> exact ⟨rfl, rfl, Nat.le_refl _⟩
  | _ => exact ⟨rfl, rfl, Nat.le_refl _⟩

/-- Whoever serves a session's callers, or works in its background, keeps to the rules. -/
theorem admits_house : house.Admits Network.Keeps fun _ => True where
  lockFree _ _ _ _ := trivial
  own _ _ _ _ _ := trivial
  order _ _ _ hs ha := Sound.sameRoute hs ha.sameRoute
  enough := Network.suffices_keeps
  side _ _ _ hs := hs.sameCore
  ended _ _ _ := ⟨rfl, rfl, Nat.le_refl _⟩
  shut _ _ := ⟨rfl, rfl, Nat.le_refl _⟩
  cancel _ _ _ := ⟨rfl, rfl, Nat.le_refl _⟩
  failover _ failed _ _ _ _ hs := Act.lawful_handleFailover failed ⟨rfl, hs, rfl⟩
  switch readOnly _ _ hs := Act.lawful_switchReadOnly readOnly ⟨rfl, hs, rfl⟩
  reconnect _ _ hs :=
    (Act.lawful_reconnect ⟨hs, fun _ _ _ => .inl rfl, fun _ => .inl, fun _ => rfl⟩).mono
      fun _ _ _ hl => hl.sound
  close d _ hs := Act.lawful_emptySlots d hs
  background d _ hs := Act.lawful_reconnectIfDue _ d hs
  retry _ _ d _ hs := Act.lawful_retryRound _ d hs
  ping g delay _ d _ hs := Act.lawful_pingRound g delay d hs

end Failover
