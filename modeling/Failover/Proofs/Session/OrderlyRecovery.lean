import Failover.Proofs.Session.OrderlySearch
import Failover.Session.Recovery

/-!
A recovery from a failure leaves a session in order. Until it ends the role that failed may be
looked for by nobody but the recovery itself.
-/
namespace Failover
open Desk Routine

theorem Held.ofIll {ς : Outsiders} {s : Session} {u : Active → Bool} {t : List (Change Desk)}
    {d : Desk} (h : Held ς s [] { unwatched := u } t d) (hs : ¬s.Well) : Order ς [] {} t d := by
  have hopen (hc : d.session.closed = false) : False := hs (h.wellAt hc rfl)
  exact ⟨h.shut, h.known, fun hc => (hopen hc).elim, fun hc => (hopen hc).elim,
    fun hc => (hopen hc).elim, h.tidy⟩

namespace Act
variable {ς : Outsiders} {s : Session} {loose : List Handle} {debt : Debt} {u : Active → Bool}
  {t : List (Change Desk)} {d : Desk} {op : Option Operation} {a : Active}

theorem orderly_rest {α : Type} {r : Act α} (hr : r.Steps Harmless) (h : Held ς s [] {} t d) :
    r.Ensures (watch ς) (fun _ => Order ς [] {}) t d :=
  (orderly_harmless hr h).mono fun _ _ _ h => h.toOrder

theorem answers_answering (o : Option Handle) :
    (answering o).Answers fun x => ∀ h, x = some h → o = some h := by
  cases o with
  | none => exact nofun
  | some h =>
    refine answers_bind _ fun r => ?_
    split
    · exact fun _ => id
    · exact nofun

theorem orderly_answering (o : Option Handle) (h : Held ς s loose debt t d) :
    (answering o).Ensures (watch ς)
      (fun x t d => (∀ h, x = some h → o = some h) ∧ Held ς s loose debt t d) t d :=
  (orderly_harmless (harmless_answering o) h).answers (answers_answering o)

theorem orderly_failPrimaryAgain (o : Option Handle) (h : Held ς s loose (debt.unwatch .primary) t d)
    (hf : s.failed .primary = true) :
    (o.forM failPrimary).Ensures (watch ς) (fun _ => Held ς s loose (debt.unwatch .primary)) t d := by
  cases o with
  | none => exact h
  | some x =>
    refine (orderly_failPrimary x h).mono fun _ t d hd => ?_
    obtain ⟨now, h⟩ := hd
    rwa [Session.mark_of_failed hf, unwatch_unwatch] at h

theorem orderly_failSecondaryAgain (o : Option Handle)
    (h : Held ς s loose (debt.unwatch .secondary) t d) (hp : s.policy = .replicated)
    (hf : s.failed .secondary = true) :
    (o.forM failSecondary).Ensures (watch ς)
      (fun _ => Held ς s loose (debt.unwatch .secondary)) t d := by
  cases o with
  | none => exact h
  | some x =>
    have hs : s.policy = .single → ¬s.Well := by
      intro hsingle
      rw [hp] at hsingle
      cases hsingle
    refine (orderly_failSecondary x h hs).mono fun _ t d hd => ?_
    obtain ⟨now, h⟩ := hd
    rwa [Session.mark_of_failed hf, unwatch_unwatch] at h

theorem orderly_giveUp (h : Held ς s [] { unwatched := u } t d) :
    giveUp.Ensures (watch ς) (fun _ => Order ς [] {}) t d :=
  (orderly_armRetry 0 h).bind fun _ _ _ h => h.toOrder

theorem orderly_carryOn (x : Handle) (h : Held ς s [] { unwatched := u } t d) :
    (carryOn op x).Ensures (watch ς) (fun _ => Order ς [] {}) t d :=
  (orderly_armRetry 0 h).bind fun _ _ _ h => orderly_rest (harmless_relaunch op x) h

section Single

theorem orderly_searchSingle (failed : Option Handle) (h : Held ς s [] { unwatched := u } t d)
    (hp : s.policy = .single) :
    (searchSingle op failed).Ensures (watch ς) (fun _ => Order ς [] {}) t d := by
  refine (orderly_harmless harmless_read h).bind fun busy t d h => ?_
  split
  · exact orderly_giveUp h
  · refine (orderly_reconnectSingle h hp).bind fun x t d hd => ?_
    obtain ⟨s', hr, h⟩ := hd
    cases x with
    | error e => exact orderly_giveUp h
    | ok _ =>
      exact orderly_rest (harmless_relaunchOnCurrent op)
        (h.rewatch (fun hc a _ _ => hr.none_failed h rfl hc a) rfl rfl)

theorem orderly_replaceSingle (failed : Option Handle) (h : Held ς s [] { unwatched := u } t d)
    (hp : s.policy = .single) :
    (replaceSingle op failed).Ensures (watch ς) (fun _ => Order ς [] {}) t d := by
  refine (orderly_harmless harmless_read h).bind fun s₁ t d h => ?_
  dsimp only
  split
  · refine ensures_when (fun _ => orderly_harmless (steps_pause _) h) (fun _ => h) fun t d h => ?_
    exact orderly_searchSingle failed h hp
  · exact orderly_giveUp h

theorem orderly_primaryFailSingle (h : Held ς s [] (Debt.unwatch .primary {}) t d)
    (hp : s.policy = .single) (hf : s.failed .primary = true) (ha : s.active = .primary) :
    (primaryFailSingle op).Ensures (watch ς) (fun _ => Order ς [] {}) t d := by
  refine orderly_session h fun t h' => ?_
  have hslot : d.session.primary = s.primary := Session.primary_of_core h.core
  refine (orderly_answering _ (h'.congr h.core)).bind fun x t d hd => ?_
  obtain ⟨hx, h⟩ := hd
  cases x with
  | some x =>
    have hfilled : s.primary = some x := hslot.symm.trans (hx x rfl)
    refine (orderly_primaryRecovered x h (by simp [hfilled]) ha).bind fun _ t d h => ?_
    rw [rewatch_unwatch] at h
    exact orderly_rest (harmless_relaunch op x) h
  | none =>
    refine (orderly_failPrimaryAgain _ h hf).bind fun _ t d h => ?_
    exact orderly_replaceSingle _ h hp

end Single

section Replicated

/-- The secondary serves in the place of a failed primary, if it is good. -/
theorem orderly_fallBackToSecondary (failed : Option Handle)
    (h : Held ς s [] { unwatched := u } t d) (hf : s.failed .primary = true) :
    (fallBackToSecondary op failed).Ensures (watch ς) (fun _ => Order ς [] {}) t d := by
  refine orderly_session h fun t h' => ?_
  have hslot : d.session.secondary = s.secondary := Session.secondary_of_core h.core
  have h := h'.congr h.core
  dsimp only
  split
  · exact orderly_giveUp h
  · split
    · exact orderly_giveUp h
    · rename_i x hx
      -- A session with one writer comes here only without one; then it owes nothing.
      have hill (hp : s.policy = .single) : ¬s.Well := by
        intro hw
        rw [hslot, (hw.single hp).2.1] at hx
        cases hx
      refine (orderly_harmless (harmless_onNetwork (Calls.keeps_ping x)) h).bind fun y t d h => ?_
      rcases y with e | (_ | _)
      · refine (orderly_failSecondary x h hill).bind fun _ t d hd => ?_
        obtain ⟨now, h⟩ := hd
        exact orderly_giveUp h
      · exact orderly_giveUp h
      · refine ensures_when (P := fun t d => ∃ s', Held ς s' [] { unwatched := u } t d)
          (fun _ => ?_) (fun _ => ⟨s, h⟩) fun t d hd => ?_
        · have hfilled : s.slot .secondary ≠ none := by
            rw [Session.slot, ← hslot, hx]
            exact nofun
          exact (orderly_turnTo x h hfilled (fun hp => .inr (hill hp))
            (Session.routed_secondary hf)).mono fun _ _ _ h => ⟨_, h⟩
        · obtain ⟨s', h⟩ := hd
          exact orderly_carryOn x h

theorem orderly_replacePrimary (failed : Option Handle)
    (h : Held ς s [] (Debt.unwatch .primary {}) t d) (hf : s.failed .primary = true) :
    (replacePrimary op failed).Ensures (watch ς) (fun _ => Order ς [] {}) t d := by
  refine (orderly_harmless harmless_read h).bind fun s₁ t d h => ?_
  refine (orderly_harmless harmless_read h).bind fun busy t d h => ?_
  split
  · refine (orderly_tryReconnect (orderly_reconnectReplicated h)).bind fun _ t d hd => ?_
    obtain ⟨s', h⟩ := hd
    refine orderly_session h fun t h => ?_
    split
    · rename_i hf'
      exact orderly_fallBackToSecondary failed h hf'
    · rename_i hf'
      refine orderly_rest (harmless_relaunchOnCurrent op) (h.rewatch (fun _ a ha _ => ?_) rfl rfl)
      cases a with
      | primary => exact Bool.eq_false_iff.2 hf'
      | secondary => cases ha
  · exact orderly_fallBackToSecondary failed h hf

theorem orderly_primaryFailReplicated {probe : Bool}
    (h : Held ς s [] (Debt.unwatch .primary {}) t d) (hf : s.failed .primary = true)
    (ha : probe = true → s.active = .primary) :
    (primaryFailReplicated op probe).Ensures (watch ς) (fun _ => Order ς [] {}) t d := by
  refine orderly_session h fun t h' => ?_
  have hslot : d.session.primary = s.primary := Session.primary_of_core h.core
  refine (orderly_answering _ (h'.congr h.core)).bind fun x t d' hd => ?_
  obtain ⟨hx, h⟩ := hd
  cases x with
  | some x =>
    have hasked := hx x rfl
    cases probe with
    | false => cases hasked
    | true =>
      have hfilled : s.primary = some x := hslot.symm.trans hasked
      refine (orderly_primaryRecovered x h (by simp [hfilled]) (ha rfl)).bind fun _ t d h => ?_
      rw [rewatch_unwatch] at h
      exact orderly_rest (harmless_relaunchOnCurrent op) h
  | none =>
    refine (orderly_failPrimaryAgain _ h hf).bind fun _ t d h => ?_
    exact orderly_replacePrimary _ h hf

theorem orderly_replaceSecondary (h : Held ς s [] { unwatched := u } t d) :
    (replaceSecondary op).Ensures (watch ς) (fun _ => Order ς [] {}) t d := by
  refine (orderly_harmless harmless_read h).bind fun s₁ t d h => ?_
  split
  · refine (orderly_tryReconnect (orderly_reconnectReplicated h)).bind fun _ t d hd => ?_
    obtain ⟨s', h⟩ := hd
    refine orderly_session h fun t h => ?_
    refine ensures_when (P := Held ς d.session [] {}) (fun _ => orderly_armRetry retryPeriod h)
      (fun hn => h.rewatch (fun _ a _ _ => ?_) rfl rfl) fun t' d' h => ?_
    · have hgood : d.session.outage.primaryFailed = false ∧
          d.session.outage.secondaryFailed = false := by
        simpa [Outage.anyFailed] using hn
      cases a with
      | primary => exact hgood.1
      | secondary => exact hgood.2
    · split
      · exact h.toOrder
      · exact orderly_rest (harmless_relaunchOnCurrent op) h
  · exact orderly_giveUp h

theorem orderly_secondaryFailReplicated (h : Held ς s [] (Debt.unwatch .secondary {}) t d)
    (hp : s.policy = .replicated) (hf : s.failed .secondary = true) (ha : s.active = .secondary) :
    (secondaryFailReplicated op).Ensures (watch ς) (fun _ => Order ς [] {}) t d := by
  have hsingle : s.policy ≠ .single := by simp [hp]
  refine orderly_session h fun t h' => ?_
  have hsecondary : d.session.secondary = s.secondary := Session.secondary_of_core h.core
  have hprimary : d.session.primary = s.primary := Session.primary_of_core h.core
  refine (orderly_answering _ (h'.congr h.core)).bind fun x t d' hd => ?_
  obtain ⟨hx, h⟩ := hd
  cases x with
  | some x =>
    have hfilled : s.secondary = some x := hsecondary.symm.trans (hx x rfl)
    refine (orderly_secondaryRecovered x h (by simp [hfilled]) ha).bind fun _ t d h => ?_
    rw [rewatch_unwatch] at h
    exact orderly_rest (harmless_relaunchOnCurrent op) h
  | none =>
    refine (orderly_failSecondaryAgain _ h hp hf).bind fun _ t d' h => ?_
    refine (orderly_harmless harmless_read h).bind fun s₁ t d' h => ?_
    split
    · exact orderly_replaceSecondary h
    · split
      · exact orderly_replaceSecondary h
      · rename_i p hslot
        refine (orderly_harmless (harmless_onNetwork (Calls.keeps_ping p)) h).bind
          fun y t d' h => ?_
        rcases y with e | (_ | _)
        · refine (orderly_failPrimary p h).bind fun _ t d' hd => ?_
          obtain ⟨now, h⟩ := hd
          exact orderly_replaceSecondary h
        · exact orderly_replaceSecondary h
        · have hfilled : s.slot .primary ≠ none := by
            rw [Session.slot, ← hprimary, hslot]
            exact nofun
          refine (orderly_turnTo p h hfilled (fun hs => (hsingle hs).elim)
            (Session.routed_primary hf)).bind fun _ t d' h => ?_
          exact orderly_carryOn p h

end Replicated

section Failover

theorem orderly_recordFailure (failed : Handle) (h : Held ς s loose debt t d) :
    (recordFailure failed op).Ensures (watch ς) (fun _ t d => ∃ now,
      Held ς (s.mark .primary now) loose (debt.unwatch .primary) t d) t d := by
  refine (orderly_markPrimary h).bind fun fresh t d hd => ?_
  obtain ⟨now, h⟩ := hd
  dsimp only
  split
  · refine ensures_when (fun _ => orderly_harmless harmless_countQuery h) (fun _ => h)
      fun t d h => ?_
    exact (orderly_harmless (harmless_updateBlacklist _ failed) h).mono fun _ _ _ h => ⟨now, h⟩
  · exact ⟨now, h⟩

theorem orderly_recover (failed : Handle) (h : Order ς [] {} t d) :
    (recover failed op).Ensures (watch ς) (fun _ => Order ς [] {}) t d := by
  refine orderly_session (.of_order h) fun t h => ?_
  have hfail (a : Active) (now : Nat) := Session.failed_mark d.session a now
  split
  · rename_i ha
    refine (orderly_recordFailure failed h).bind fun _ t d' hd => ?_
    obtain ⟨now, h⟩ := hd
    split <;> rename_i hp
    · exact orderly_primaryFailSingle h hp (hfail .primary now) ha
    · exact orderly_primaryFailReplicated h (hfail .primary now) fun _ => ha
  · rename_i ha
    have hill (s : Session) (hs : s.active = .secondary) (hp : s.policy = .single) : ¬s.Well := by
      intro hw
      rw [(hw.single hp).1] at hs
      cases hs
    refine (orderly_failSecondary failed h (hill d.session ha)).bind fun _ t d' hd => ?_
    obtain ⟨now, h⟩ := hd
    split <;> rename_i hp
    · exact h.ofIll (hill _ ha hp)
    · exact orderly_secondaryFailReplicated h hp (hfail .secondary now) ha

theorem orderly_handleFailover (failed : Handle) (h : Order ς [] {} t d) :
    (handleFailover failed op).Ensures (watch ς) (fun _ => Order ς [] {}) t d := by
  refine orderly_session (.of_order h) fun t h => ?_
  split
  · exact h.toOrder
  · split
    · exact orderly_recover failed h.toOrder
    · exact orderly_rest (harmless_relaunch op _) h

end Failover

end Act
end Failover
