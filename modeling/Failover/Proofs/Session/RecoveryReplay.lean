import Failover.Proofs.Network.UsableConnections
import Failover.Proofs.Office.ServingSlots

/-!
What becomes of an operation whose connection broke. Whatever has taken over when the failure has
been handled was sent the operation, unless a search for both roles came halfway.
-/
namespace Failover
open Desk Routine

namespace Session
variable {s s' : Session} {failed : Handle}

/-- The session is served by its primary, as it may be, while its secondary is still looked for. -/
def Halfway (s : Session) : Prop :=
  s.policy = .replicated ∧ s.options.autoReconnect = true ∧ s.active = .primary ∧
    s.outage.primaryFailed = false ∧ s.outage.secondaryFailed = true ∧
    s.outage.readOnlyRequested = false

theorem halfway_of_core (hc : s'.core = s.core) : s'.Halfway ↔ s.Halfway := by
  rw [of_core Halfway (fun _ => rfl) hc]

/-- While the writer is looked for the session has only what broke. -/
structure Stranded (failed : Handle) (needs : Needs) (s : Session) : Prop where
  replica : needs.replica = false
  current : needs.primary = true → s.current = some failed

/-- While the primary is failed it is what broke, and serves where the secondary is failed too. -/
structure Bereft (failed : Handle) (s : Session) : Prop where
  primary : s.failed .primary = true → s.slot .primary = some failed
  active : s.failed .primary = true → s.failed .secondary = true → s.active = .primary

/-- While the secondary is failed it is what broke, and the primary serves only where it is good and
the session may write. -/
structure Orphaned (failed : Handle) (s : Session) : Prop where
  policy : s.policy = .replicated
  autoReconnect : s.options.autoReconnect = true
  secondary : s.failed .secondary = true → s.slot .secondary = some failed
  primary : s.failed .secondary = true → s.active = .primary →
    s.outage.readOnlyRequested = false ∧ s.failed .primary = false

theorem Bereft.of_core (h : Bereft failed s) (hc : s'.core = s.core) : Bereft failed s' := by
  refine ⟨fun hf => ?_, fun hf hf' => ?_⟩
  · rw [failed_of_core hc] at hf
    rw [slot_of_core hc, h.primary hf]
  · rw [failed_of_core hc] at hf hf'
    rw [active_of_core hc, h.active hf hf']

theorem Orphaned.of_core (h : Orphaned failed s) (hc : s'.core = s.core) : Orphaned failed s' := by
  refine ⟨?_, ?_, fun hf => ?_, fun hf ha => ?_⟩
  · rw [policy_of_core hc, h.policy]
  · rw [options_of_core hc, h.autoReconnect]
  · rw [failed_of_core hc] at hf
    rw [slot_of_core hc, h.secondary hf]
  · rw [failed_of_core hc] at hf ⊢
    rw [active_of_core hc] at ha
    rw [readOnlyRequested_of_core hc]
    exact h.primary hf ha

theorem kept_stranded (failed : Handle) : Kept (Stranded failed) := by
  intro needs role x s s' h hw ht
  cases role with
  | primary => exact ⟨h.replica, nofun⟩
  | replica =>
    have hwanted : needs.replica = true := hw
    rw [h.replica] at hwanted
    cases hwanted
  | unset => cases hw

theorem kept_bereft (failed : Handle) : Kept fun _ => Bereft failed := by
  intro needs role x s s' h hw ht
  rcases ht with ⟨-, -, rfl⟩ | hseats
  · exact h
  · have hfailed := hseats.failed
    cases role with
    | primary =>
      have hgood : s'.failed .primary = false := hfailed .primary
      refine ⟨fun hf => ?_, fun hf => ?_⟩ <;>
        · rw [hgood] at hf
          cases hf
    | replica =>
      refine ⟨fun hf => ?_, fun _ hf => ?_⟩
      · rw [hfailed] at hf
        exact (hseats.slot .primary).trans (h.primary hf)
      · rw [hfailed] at hf
        cases hf
    | unset => cases hw

theorem kept_orphaned (failed : Handle) : Kept fun _ => Orphaned failed := by
  intro needs role x s s' h hw ht
  rcases ht with ⟨-, -, rfl⟩ | hseats
  · exact h
  · have hpolicy := hseats.policy.trans h.policy
    have hauto := (congrArg Options.autoReconnect hseats.options).trans h.autoReconnect
    have hfailed := hseats.failed
    cases role with
    | primary =>
      have hgood : s'.failed .primary = false := hfailed .primary
      have hsame (hf : s'.failed .secondary = true) : s.failed .secondary = true := by
        rwa [hfailed] at hf
      refine ⟨hpolicy, hauto, fun hf => (hseats.slot .secondary).trans (h.secondary (hsame hf)),
        fun hf ha => ⟨hseats.readOnly.trans ?_, hgood⟩⟩
      -- It turns to the new primary only where it may write.
      by_contra hr
      have hro : s.outage.readOnlyRequested = true := by simpa using hr
      have hstays := hseats.active
      simp only [moves, h.policy, Role.slot, hro, ha] at hstays
      exact hr (h.primary (hsame hf) (by simpa using hstays.symm)).1
    | replica =>
      have hgood : s'.failed .secondary = false := hfailed .secondary
      refine ⟨hpolicy, hauto, fun hf => ?_, fun hf => ?_⟩ <;>
        · rw [hgood] at hf
          cases hf
    | unset => cases hw

end Session

namespace Act
open Carryover (Replay)
variable {ς : Outsiders} {s : Session} {loose : List Handle} {debt : Debt} {u : Active → Bool}
  {a : Active} {failed b : Handle} {op : Operation} {t₀ t : List (Change Desk)} {d : Desk} {α : Type}

section Quiet

theorem orderly_quiet {r : Act α} {Q : α → List (Change Desk) → Desk → Prop}
    (hr : r.Ensures (watch ς) Q t d) (ht : r.Steps Unsent) (hq : Quiet t₀ t) :
    r.Ensures (watch ς) (fun x t d => Q x t d ∧ Quiet t₀ t) t d :=
  hr.and (ensures_quiet ht hq)

theorem quiet_session {f : Session → Act α} {Q : α → List (Change Desk) → Desk → Prop}
    (h : Held ς s loose debt t d) (hq : Quiet t₀ t)
    (hf : ∀ t, Held ς d.session loose debt t d → Quiet t₀ t →
      (f d.session).Ensures (watch ς) Q t d) : (session >>= f).Ensures (watch ς) Q t d := by
  refine ensures_bind.2 (ensures_read.2 fun now => ⟨fun hc => ⟨hc, .of_core rfl⟩, hf _ ?_ ?_⟩)
  · exact Held.of_order (h.toOrder.pass (Harmless.refl d).outsideLock fun _ => rfl)
  · exact hq.cons (sending?_of_unsent (.of_eq rfl) now)

end Quiet

/-- A session that is served by another connection than the one that broke has sent the operation
there, and got an answer. Else that connection was no good, or a search made for a broken secondary
came halfway, and nothing was sent. -/
def Handled (ς : Outsiders) (a : Active) (failed : Handle) (op : Operation)
    (t₀ : List (Change Desk)) (x : Replay) (t : List (Change Desk)) (d : Desk) : Prop :=
  d.session.closed = false → ∀ b, d.session.current = some b → b ≠ failed →
    Lapsed (Serves b) t₀ t ∨
    (∃ r, x = .replayed r ∧ lost r = false ∧ Sent (OutsideLock ς) op b r t₀ t) ∨
    (a = .secondary ∧ d.session.Halfway ∧ x = .unrecovered ∧ Quiet t₀ t)

/-- The session is served by what broke, or by what is no good either. -/
def Stuck (failed : Handle) (t₀ : List (Change Desk)) (s : Session) (t : List (Change Desk)) : Prop :=
  ∀ b, s.current = some b → b = failed ∨ Lapsed (Serves b) t₀ t

theorem stuck_of_current (hs : s.current = some failed) : Stuck failed t₀ s t := by
  intro b hb
  rw [hs] at hb
  cases hb
  exact .inl rfl

theorem permanent_stuck : Permanent fun t _ => Stuck failed t₀ s t :=
  fun _ _ _ _ _ hs b hb => (hs b hb).imp_right (·.cons _)

theorem handled_of_stuck {x : Replay} (h : Held ς s [] { unwatched := u } t d)
    (hs : s.Well → Stuck failed t₀ s t) : Handled ς a failed op t₀ x t d := by
  intro hc b hb hne
  rw [Session.current_of_core h.core] at hb
  exact .inl ((hs (h.wellAt hc rfl) b hb).resolve_left hne)

theorem handled_giveUp (h : Held ς s [] { unwatched := u } t d)
    (hs : s.Well → Stuck failed t₀ s t) :
    giveUp.Ensures (watch ς) (Handled ς a failed op t₀) t d := by
  have hkept : Permanent fun t _ => s.Well → Stuck failed t₀ s t :=
    fun t d d' own now hs hw => permanent_stuck t d d' own now (hs hw)
  refine (ensures_permanent (orderly_armRetry 0 h) hkept hs).bind fun _ t d hd => ?_
  exact handled_of_stuck hd.1 hd.2

theorem handled_relaunch (hop : op.isReplayable = true) (h : Held ς s [] { unwatched := u } t d)
    (hq : Quiet t₀ t) (hs : s.current = some b) :
    (relaunch (some op) b).Ensures (watch ς) (Handled ς a failed op t₀) t d := by
  have hd : d.session.current = some b := (Session.current_of_core h.core).trans hs
  obtain ⟨es, hes, -⟩ := id hq
  have hgrown : t₀ <:+ t := ⟨es, hes.symm⟩
  have hfilter : (some op).filter (·.isReplayable) = some op := by simp [hop]
  unfold relaunch Carryover.relaunch
  rw [hfilter]
  refine ((orderly_harmless (harmless_invoke b op) h).and
    ((ensures_invoke b op hq).and (serves_invoke op hd))).bind fun r t' d' hx => ?_
  obtain ⟨h', hsent, hanswer⟩ := hx
  have hhandled {x : Replay} (hx : lost r = false → x = .replayed r) :
      Handled ς a failed op t₀ x t' d' := by
    intro hc b' hb' hne
    rw [Session.current_of_core h'.core, hs] at hb'
    cases hb'
    rcases hanswer with hr | hl
    · exact .inr (.inl ⟨r, hx hr, hr, hsent⟩)
    · exact .inl (hl.since hgrown)
  cases r with
  | ok r => exact hhandled fun _ => rfl
  | error e => exact hhandled fun he => by simp_all [lost]

theorem handled_relaunchOnCurrent (hop : op.isReplayable = true)
    (h : Held ς s [] { unwatched := u } t d) (hq : Quiet t₀ t) :
    (relaunchOnCurrent (some op)).Ensures (watch ς) (Handled ς a failed op t₀) t d := by
  refine quiet_session h hq fun t h hq => ?_
  split
  · rename_i b hb
    exact handled_relaunch hop h hq hb
  · rename_i hb
    refine handled_of_stuck h fun _ b hb' => ?_
    rw [hb] at hb'
    cases hb'

theorem handled_carryOn (hop : op.isReplayable = true) (h : Held ς s [] { unwatched := u } t d)
    (hq : Quiet t₀ t) (hs : s.current = some b) :
    (carryOn (some op) b).Ensures (watch ς) (Handled ς a failed op t₀) t d := by
  refine (orderly_quiet (orderly_armRetry 0 h) (unsent_of_coreUnsent (steps_armRetry 0)) hq).bind
    fun _ t d hd => ?_
  exact handled_relaunch hop hd.1 hd.2 hs

section Single

theorem handled_searchSingle (left : Option Handle) (hop : op.isReplayable = true)
    (h : Held ς s [] { unwatched := u } t d) (hq : Quiet t₀ t) (hs : s.current = some failed) :
    (searchSingle (some op) left).Ensures (watch ς) (Handled ς a failed op t₀) t d := by
  refine (orderly_quiet (orderly_harmless harmless_read h)
    (unsent_of_coreUnsent (steps_inTransaction left)) hq).bind fun busy t d hd => ?_
  obtain ⟨h, hq⟩ := hd
  split
  · exact handled_giveUp h fun _ => stuck_of_current hs
  · refine (orderly_quiet (orderly_seekPrimary (Session.kept_stranded failed) h
      fun _ => ⟨rfl, fun _ => hs⟩) unsent_reconnectSingle hq).bind fun x t d hd => ?_
    obtain ⟨⟨needs, s', hx, hs', h⟩, hq⟩ := hd
    cases x with
    | ok _ => exact handled_relaunchOnCurrent hop h hq
    | error e =>
      -- What is still needed after a search that failed is the writer.
      have hneeds : needs.primary = true := by
        have hn : ¬needs.satisfied = true := fun hn => by cases hx.2 hn
        simpa [Needs.satisfied, hs'.replica] using hn
      exact handled_giveUp h fun _ => stuck_of_current (hs'.current hneeds)

theorem handled_replaceSingle (left : Option Handle) (hop : op.isReplayable = true)
    (h : Held ς s [] { unwatched := u } t d) (hq : Quiet t₀ t) (hs : s.current = some failed) :
    (replaceSingle (some op) left).Ensures (watch ς) (Handled ς a failed op t₀) t d := by
  refine quiet_session h hq fun t h' hq => ?_
  have h := h'.congr h.core
  split
  · refine ensures_when (P := fun t d => Held ς s [] { unwatched := u } t d ∧ Quiet t₀ t)
      (fun _ => orderly_quiet (orderly_harmless (steps_pause _) h) (steps_pause _) hq)
      (fun _ => ⟨h, hq⟩) fun t d hd => ?_
    exact handled_searchSingle left hop hd.1 hd.2 hs
  · exact handled_giveUp h fun _ => stuck_of_current hs

theorem handled_primaryFailSingle (hop : op.isReplayable = true)
    (h : Held ς s [] (Debt.unwatch .primary {}) t d) (hq : Quiet t₀ t)
    (hf : s.failed .primary = true) (ha : s.active = .primary)
    (hs : s.slot .primary = some failed) :
    (primaryFailSingle (some op)).Ensures (watch ς) (Handled ς a failed op t₀) t d := by
  have hcurrent : s.current = some failed := by rw [Session.current_eq, ha, hs]
  refine quiet_session h hq fun t h' hq => ?_
  have hslot : d.session.primary = s.primary := Session.primary_of_core h.core
  refine (orderly_quiet (orderly_answering _ (h'.congr h.core))
    (unsent_of_coreUnsent (steps_answering _)) hq).bind fun x t d hd => ?_
  obtain ⟨⟨hx, h⟩, hq⟩ := hd
  cases x with
  | some x =>
    have hfilled : s.primary = some x := hslot.symm.trans (hx x rfl)
    have hx' : (s.unmark .primary).current = some x := by
      rw [Session.current_eq]
      exact (congrArg s.slot ha).trans hfilled
    refine (orderly_quiet (orderly_primaryRecovered x h (by simp [hfilled]) ha)
      (unsent_of_routeUnsent (steps_primaryRecovered x)) hq).bind fun _ t d hd => ?_
    exact handled_relaunch hop hd.1 hd.2 hx'
  | none =>
    refine (orderly_quiet (orderly_failPrimaryAgain _ h hf)
      (steps_forM fun x => unsent_of_routeUnsent (steps_failPrimary x)) hq).bind fun _ t d hd => ?_
    exact handled_replaceSingle _ hop hd.1 hd.2 hcurrent

end Single

section Replicated

theorem handled_fallBackToSecondary (left : Option Handle) (hop : op.isReplayable = true)
    (h : Held ς s [] { unwatched := u } t d) (hq : Quiet t₀ t) (hf : s.failed .primary = true)
    (hs : s.Bereft failed) :
    (fallBackToSecondary (some op) left).Ensures (watch ς) (Handled ς a failed op t₀) t d := by
  have hcore := h.core
  refine quiet_session h hq fun t h hq => ?_
  replace hf : d.session.failed .primary = true := by rwa [Session.failed_of_core hcore]
  replace hs := hs.of_core hcore
  have hprimary (ha : d.session.active = .primary) : d.session.current = some failed := by
    rw [Session.current_eq, ha, hs.primary hf]
  dsimp only
  split
  · rename_i hf'
    exact handled_giveUp h fun _ => stuck_of_current (hprimary (hs.active hf hf'))
  · rename_i hgood
    split
    · rename_i hnone
      refine handled_giveUp h fun hw => stuck_of_current (hprimary ?_)
      cases hp : d.session.policy with
      | single => exact (hw.single hp).1
      | replicated => exact (hgood (hw.vacant hp .secondary hnone)).elim
    · rename_i x hx
      have hsecondary (ha : d.session.active = .secondary) : d.session.current = some x := by
        rw [Session.current_eq, ha]
        exact hx
      have hping : (onNetwork (Calls.ping x)).Ensures (watch ς) (fun y t' d' =>
          (Held ς d.session [] { unwatched := u } t' d' ∧ Quiet t₀ t') ∧
            (y ≠ .ok true → Stuck failed t₀ d.session t')) t d := by
        have hheld := orderly_quiet (orderly_harmless (harmless_onNetwork (Calls.keeps_ping x)) h)
          (unsent_onNetwork (Calls.keeps_ping x).grows) hq
        cases ha : d.session.active with
        | primary => exact hheld.mono fun _ _ _ hd => ⟨hd, fun _ => stuck_of_current (hprimary ha)⟩
        | secondary =>
          refine (hheld.and (serves_ping (hsecondary ha))).mono fun y t' d' hd => ?_
          refine ⟨hd.1, fun hy b hb => .inr ?_⟩
          rw [hsecondary ha] at hb
          cases hb
          obtain ⟨es, hes, -⟩ := hq
          exact (hd.2.resolve_left hy).since ⟨es, hes.symm⟩
      refine hping.bind fun y t' d' hd => ?_
      obtain ⟨⟨h, hq⟩, hstuck⟩ := hd
      rcases y with e | (_ | _)
      · have hill (hp : d.session.policy = .single) : ¬d.session.Well := by
          intro hw
          rw [(hw.single hp).2.1] at hx
          cases hx
        refine (ensures_permanent (orderly_failSecondary x h hill) permanent_stuck
          (hstuck (by simp))).bind fun _ t d hd => ?_
        obtain ⟨⟨now, h⟩, hstuck⟩ := hd
        exact handled_giveUp h fun _ => hstuck
      · exact handled_giveUp h fun _ => hstuck (by simp)
      · refine ensures_when (P := fun t' d' => ∃ s', s'.current = some x ∧
          Held ς s' [] { unwatched := u } t' d' ∧ Quiet t₀ t') (fun _ => ?_) (fun ha => ?_)
          fun t d hd => ?_
        · have hfilled : d.session.slot .secondary ≠ none := by simp [Session.slot, hx]
          have hill (hp : d.session.policy = .single) :
              Active.secondary = .primary ∨ ¬d.session.Well := by
            refine .inr fun hw => ?_
            rw [(hw.single hp).2.1] at hx
            cases hx
          refine (orderly_quiet (orderly_turnTo x h hfilled hill (Session.routed_secondary hf))
            (unsent_turnTo .secondary left x) hq).mono fun _ _ _ hd => ?_
          exact ⟨{ d.session with active := .secondary }, hx, hd⟩
        · refine ⟨d.session, hsecondary ?_, h, hq⟩
          cases hd : d.session.active with
          | primary => exact (ha hd).elim
          | secondary => rfl
        · obtain ⟨s', hs', h, hq⟩ := hd
          exact handled_carryOn hop h hq hs'

theorem handled_replacePrimary (left : Option Handle) (hop : op.isReplayable = true)
    (h : Held ς s [] (Debt.unwatch .primary {}) t d) (hq : Quiet t₀ t)
    (hf : s.failed .primary = true) (hs : s.Bereft failed) :
    (replacePrimary (some op) left).Ensures (watch ς) (Handled ς a failed op t₀) t d := by
  refine (orderly_quiet (orderly_harmless harmless_read h) unsent_session hq).bind
    fun s₁ t d hd => ?_
  obtain ⟨h, hq⟩ := hd
  refine (orderly_quiet (orderly_harmless harmless_read h)
    (unsent_of_coreUnsent (steps_inTransaction left)) hq).bind fun busy t d hd => ?_
  obtain ⟨h, hq⟩ := hd
  split
  · have hsearch : (discard reconnectReplicated).Ensures (watch ς) (fun _ t d =>
        (∃ s', s'.Bereft failed ∧ Held ς s' [] (Debt.unwatch .primary {}) t d) ∧ Quiet t₀ t) t d := by
      refine Ensures.discard ((orderly_quiet (orderly_seekFailed (Session.kept_bereft failed) h
        fun _ => ⟨hs.primary, hs.active⟩) unsent_reconnectReplicated hq).mono fun _ _ _ hd => ?_)
      obtain ⟨⟨_, s', -, hs', h⟩, hq⟩ := hd
      exact ⟨⟨s', hs', h⟩, hq⟩
    refine hsearch.bind fun _ t d hd => ?_
    obtain ⟨⟨s', hs', h⟩, hq⟩ := hd
    have hcore := h.core
    refine quiet_session h hq fun t h hq => ?_
    split
    · rename_i hf'
      exact handled_fallBackToSecondary left hop h hq hf' (hs'.of_core hcore)
    · exact handled_relaunchOnCurrent hop h hq
  · exact handled_fallBackToSecondary left hop h hq hf hs

theorem handled_primaryFailReplicated (hop : op.isReplayable = true)
    (h : Held ς s [] (Debt.unwatch .primary {}) t d) (hq : Quiet t₀ t)
    (hf : s.failed .primary = true) (ha : s.active = .primary)
    (hs : s.slot .primary = some failed) :
    (primaryFailReplicated (some op) true).Ensures (watch ς) (Handled ς a failed op t₀) t d := by
  refine quiet_session h hq fun t h' hq => ?_
  have hslot : d.session.primary = s.primary := Session.primary_of_core h.core
  refine (orderly_quiet (orderly_answering _ (h'.congr h.core))
    (unsent_of_coreUnsent (steps_answering _)) hq).bind fun x t d' hd => ?_
  obtain ⟨⟨hx, h⟩, hq⟩ := hd
  cases x with
  | some x =>
    have hfilled : s.primary = some x := hslot.symm.trans (hx x rfl)
    refine (orderly_quiet (orderly_primaryRecovered x h (by simp [hfilled]) ha)
      (unsent_of_routeUnsent (steps_primaryRecovered x)) hq).bind fun _ t d hd => ?_
    exact handled_relaunchOnCurrent hop hd.1 hd.2
  | none =>
    refine (orderly_quiet (orderly_failPrimaryAgain _ h hf)
      (steps_forM fun x => unsent_of_routeUnsent (steps_failPrimary x)) hq).bind fun _ t d hd => ?_
    exact handled_replacePrimary _ hop hd.1 hd.2 hf ⟨fun _ => hs, fun _ _ => ha⟩

/-- Only here a connection may take over that is sent nothing. -/
theorem handled_replaceSecondary (hop : op.isReplayable = true)
    (h : Held ς s [] { unwatched := u } t d) (hq : Quiet t₀ t) (hp : s.policy = .replicated)
    (ha : s.active = .secondary) (hs : s.slot .secondary = some failed) :
    (replaceSecondary (some op)).Ensures (watch ς) (Handled ς .secondary failed op t₀) t d := by
  refine quiet_session h hq fun t h' hq => ?_
  have hcore := h.core
  have h := h'.congr hcore
  split
  · rename_i hauto
    have htie : s.Orphaned failed := by
      refine ⟨hp, ?_, fun _ => hs, fun _ ha' => ?_⟩
      · rwa [Session.options_of_core hcore] at hauto
      · rw [ha] at ha'
        cases ha'
    have hsearch : (discard reconnectReplicated).Ensures (watch ς) (fun _ t d =>
        (∃ s', s'.Orphaned failed ∧ Held ς s' [] { unwatched := u } t d) ∧ Quiet t₀ t) t d := by
      refine Ensures.discard ((orderly_quiet (orderly_seekFailed (Session.kept_orphaned failed) h
        fun _ => ⟨htie.policy, htie.autoReconnect, htie.secondary, htie.primary⟩)
        unsent_reconnectReplicated hq).mono fun _ _ _ hd => ?_)
      obtain ⟨⟨_, s', -, hs', h⟩, hq⟩ := hd
      exact ⟨⟨s', hs', h⟩, hq⟩
    refine hsearch.bind fun _ t d hd => ?_
    obtain ⟨⟨s', hs', h⟩, hq⟩ := hd
    replace hs' := hs'.of_core h.core
    refine quiet_session h hq fun t h hq => ?_
    refine ensures_when (P := fun t d' => (∃ u, Held ς d.session [] { unwatched := u } t d') ∧
        Quiet t₀ t) (fun _ => ?_) (fun _ => ⟨⟨u, h⟩, hq⟩) fun t d' hd => ?_
    · exact (orderly_quiet (orderly_armRetry retryPeriod h) (unsent_of_coreUnsent (steps_armRetry _))
        hq).mono fun _ _ _ hd => ⟨⟨_, hd.1⟩, hd.2⟩
    · obtain ⟨⟨u, h⟩, hq⟩ := hd
      split
      · rename_i hf
        intro hc b hb hne
        cases hactive : d.session.active with
        | secondary =>
          rw [Session.current_of_core h.core, Session.current_eq, hactive, hs'.secondary hf] at hb
          cases hb
          exact (hne rfl).elim
        | primary =>
          obtain ⟨hwritable, hgood⟩ := hs'.primary hf hactive
          have hhalfway : d.session.Halfway :=
            ⟨hs'.policy, hs'.autoReconnect, hactive, hgood, hf, hwritable⟩
          exact .inr (.inr ⟨rfl, (Session.halfway_of_core h.core).2 hhalfway, rfl, hq⟩)
      · exact handled_relaunchOnCurrent hop h hq
  · refine handled_giveUp h fun _ => stuck_of_current ?_
    rw [Session.current_eq, ha, hs]

theorem handled_secondaryFailReplicated (hop : op.isReplayable = true)
    (h : Held ς s [] (Debt.unwatch .secondary {}) t d) (hq : Quiet t₀ t)
    (hp : s.policy = .replicated) (hf : s.failed .secondary = true) (ha : s.active = .secondary)
    (hs : s.slot .secondary = some failed) :
    (secondaryFailReplicated (some op)).Ensures (watch ς) (Handled ς .secondary failed op t₀) t d := by
  refine quiet_session h hq fun t h' hq => ?_
  have hsecondary : d.session.secondary = s.secondary := Session.secondary_of_core h.core
  have hprimary : d.session.primary = s.primary := Session.primary_of_core h.core
  refine (orderly_quiet (orderly_answering _ (h'.congr h.core))
    (unsent_of_coreUnsent (steps_answering _)) hq).bind fun x t d' hd => ?_
  obtain ⟨⟨hx, h⟩, hq⟩ := hd
  cases x with
  | some x =>
    have hfilled : s.secondary = some x := hsecondary.symm.trans (hx x rfl)
    refine (orderly_quiet (orderly_secondaryRecovered x h (by simp [hfilled]) ha)
      (unsent_of_routeUnsent (steps_secondaryRecovered x)) hq).bind fun _ t d hd => ?_
    exact handled_relaunchOnCurrent hop hd.1 hd.2
  | none =>
    refine (orderly_quiet (orderly_failSecondaryAgain _ h hp hf)
      (steps_forM fun x => unsent_of_routeUnsent (steps_failSecondary x)) hq).bind
        fun _ t d' hd => ?_
    obtain ⟨h, hq⟩ := hd
    refine (orderly_quiet (orderly_harmless harmless_read h) unsent_session hq).bind
      fun s₁ t d' hd => ?_
    obtain ⟨h, hq⟩ := hd
    split
    · exact handled_replaceSecondary hop h hq hp ha hs
    · split
      · exact handled_replaceSecondary hop h hq hp ha hs
      · rename_i p hslot
        have hfilled : s.slot .primary = some p := hprimary.symm.trans hslot
        refine (orderly_quiet (orderly_harmless (harmless_onNetwork (Calls.keeps_ping p)) h)
          (unsent_onNetwork (Calls.keeps_ping p).grows) hq).bind fun y t d' hd => ?_
        obtain ⟨h, hq⟩ := hd
        rcases y with e | (_ | _)
        · refine (orderly_quiet (orderly_failPrimary p h)
            (unsent_of_routeUnsent (steps_failPrimary p)) hq).bind fun _ t d' hd => ?_
          obtain ⟨⟨now, h⟩, hq⟩ := hd
          exact handled_replaceSecondary hop h hq hp ha hs
        · exact handled_replaceSecondary hop h hq hp ha hs
        · have hsingle : s.policy ≠ .single := by simp [hp]
          refine (orderly_quiet (orderly_turnTo p h (by simp [hfilled])
            (fun hs => (hsingle hs).elim) (Session.routed_primary hf))
            (unsent_turnTo .primary _ p) hq).bind
            fun _ t d' hd => ?_
          exact handled_carryOn hop hd.1 hd.2 hfilled

end Replicated

theorem handled_recover (hop : op.isReplayable = true) (h : Order ς [] {} t d) (hq : Quiet t₀ t)
    (hs : d.session.current = some failed) :
    (recover failed (some op)).Ensures (watch ς) (Handled ς d.session.active failed op t₀) t d := by
  refine quiet_session (.of_order h) hq fun t h hq => ?_
  have hfail (a : Active) (now : Nat) := Session.failed_mark d.session a now
  rw [Session.current_eq] at hs
  split
  · rename_i ha
    rw [ha] at hs
    refine (orderly_quiet (orderly_recordFailure failed h)
      (unsent_of_routeUnsent (steps_recordFailure failed _)) hq).bind fun _ t d' hd => ?_
    obtain ⟨⟨now, h⟩, hq⟩ := hd
    split
    · exact handled_primaryFailSingle hop h hq (hfail .primary now) ha hs
    · exact handled_primaryFailReplicated hop h hq (hfail .primary now) ha hs
  · rename_i ha
    rw [ha] at hs ⊢
    have hill (hp : d.session.policy = .single) : ¬d.session.Well := by
      intro hw
      rw [(hw.single hp).1] at ha
      cases ha
    refine (orderly_quiet (orderly_failSecondary failed h hill)
      (unsent_of_routeUnsent (steps_failSecondary failed)) hq).bind fun _ t d' hd => ?_
    obtain ⟨⟨now, h⟩, hq⟩ := hd
    split <;> rename_i hp
    · refine handled_of_stuck h fun _ => stuck_of_current ?_
      rw [Session.current_eq]
      exact (congrArg d.session.slot ha).trans hs
    · exact handled_secondaryFailReplicated hop h hq hp (hfail .secondary now) ha hs

theorem handled_handleFailover (hop : op.isReplayable = true) (h : Order ς [] {} t d)
    (hq : Quiet t₀ t) :
    (handleFailover failed (some op)).Ensures (watch ς) (Handled ς d.session.active failed op t₀)
      t d := by
  refine quiet_session (.of_order h) hq fun t h hq => ?_
  split
  · rename_i hnone
    refine handled_of_stuck h fun _ b hb => ?_
    rw [hnone] at hb
    cases hb
  · rename_i x hx
    split
    · rename_i hsame
      exact handled_recover hop h.toOrder hq (hsame ▸ hx)
    · exact handled_relaunch hop h hq hx

end Act

namespace Office
variable {ask : Request → Prop} {t₀ t t' : List (Change Desk)} {o₀ o : Office} {d' : Desk}
  {failed b : Handle} {op : Operation} {e : Error} {y : Except Error QueryResult}

/-- An operation whose connection broke is sent over the usable connection that serves after the
recovery, and its caller gets the answer. Only where the connection of the secondary broke, and a
search found a primary but no secondary, it is not sent, and its caller gets the error that came
first. -/
theorem recovery_used (ho : o₀.Founded .everyone t₀)
    (h : Chronicle ask HandsIn (OutsideLock .everyone) t₀ o₀ t o) (hfree : o.Unlocked)
    (hop : op.isReplayable = true)
    (hplay : (Act.handleFailure failed (some op) e).Plays (OutsideLock .everyone) t o.desk y t' d')
    (hopen : d'.session.closed = false) (hb : d'.session.current = some b) (hne : b ≠ failed)
    (husable : ¬Lapsed (Serves b) t t') :
    (Act.Sent (OutsideLock .everyone) op b y t t' ∧ Act.lost y = false) ∨
    (o.desk.session.active = .secondary ∧ d'.session.Halfway ∧ Quiet t t' ∧ y = .error e) := by
  obtain ⟨x, t₂, d₂, hlocked, hplay⟩ := plays_bind.1 hplay
  obtain ⟨rfl, rfl, rfl⟩ := plays_pure.1 hplay
  obtain ⟨t₁, d₁, hamid, hbody⟩ := plays_locked.1 hlocked
  have hheld := ho.held h hfree (fun _ _ ha => ha) hamid
  have hq : Quiet t t₁ :=
    hamid.preserves (P := fun t₁ _ => Quiet t t₁) (fun _ _ _ _ hq _ => hq.cons rfl) (.refl t)
  have hend := (Act.handled_handleFailover hop hheld.toOrder hq).plays hbody
  rcases hend hopen b hb hne with hl | ⟨r, rfl, hr, hsent⟩ | ⟨ha, hhalfway, rfl, hquiet⟩
  · exact (husable hl).elim
  · exact .inl ⟨hsent, hr⟩
  · exact .inr ⟨(Session.active_of_core hheld.core).symm.trans ha, hhalfway, hquiet, rfl⟩

/-- The primary's server is down, and what the primary broke on runs on the replica. -/
theorem recovery_used_replica : ∃ t₀ t o₀ o e y t' d', o₀.Founded .everyone t₀ ∧
    Chronicle (fun _ => True) HandsIn (OutsideLock .everyone) t₀ o₀ t o ∧ o.Unlocked ∧
    o.desk.session.current = some 0 ∧
    (Act.handleFailure 0 (some (.query "SELECT 1")) e).Plays (OutsideLock .everyone) t o.desk y t' d' ∧
    d'.session.closed = false ∧ d'.session.current = some 1 ∧ ¬Lapsed (Serves 1) t t' ∧
    Act.Sent (OutsideLock .everyone) (.query "SELECT 1") 1 y t t' ∧ Act.lost y = false := by
  have ho : (opened vacant).Founded .everyone (opening vacant) := founded_opened (by decide +kernel)
  have hrun : Chronicle (fun _ => True) HandsIn (OutsideLock .everyone) (opening vacant)
      (opened vacant) (⟨false, 0, (opened vacant).desk, struck.desk⟩ :: opening vacant) struck :=
    Chronicle.opened.amid rfl _
  have hfree : struck.Unlocked := unlocked_of_rest (by decide +kernel) (by decide +kernel)
  have hplay := plays_alone (OutsideLock .everyone) 0
    (Act.handleFailure 0 (some (.query "SELECT 1")) (.connectivity "mock-0" "broken"))
    (⟨false, 0, (opened vacant).desk, struck.desk⟩ :: opening vacant) struck.desk
  have hopen : ((Act.handleFailure 0 (some (.query "SELECT 1"))
      (.connectivity "mock-0" "broken")).alone 0
      (⟨false, 0, (opened vacant).desk, struck.desk⟩ :: opening vacant)
      struck.desk).2.2.session.closed = false := by decide +kernel
  have hcurrent : ((Act.handleFailure 0 (some (.query "SELECT 1"))
      (.connectivity "mock-0" "broken")).alone 0
      (⟨false, 0, (opened vacant).desk, struck.desk⟩ :: opening vacant)
      struck.desk).2.2.session.current = some 1 := by decide +kernel
  have husable : ∀ e ∈ ((Act.handleFailure 0 (some (.query "SELECT 1"))
      (.connectivity "mock-0" "broken")).alone 0
      (⟨false, 0, (opened vacant).desk, struck.desk⟩ :: opening vacant)
      struck.desk).2.1, e.before.Serves 1 := by decide +kernel
  have hserves : struck.desk.session.active = .primary := by decide +kernel
  have hused := recovery_used ho hrun hfree (by decide +kernel) hplay hopen hcurrent (by simp)
    (not_lapsed husable)
  rw [hserves] at hused
  exact ⟨_, _, _, _, _, _, _, _, ho, hrun, hfree, by decide +kernel, hplay, hopen, hcurrent,
    not_lapsed husable, hused.resolve_right (by simp)⟩

end Office

namespace Scenario

/-- The session has turned to its replica when that goes down too, and its primary is up again. The
session finds the primary and is served there, but the query that broke is not sent. -/
theorem recovery_wasted :
    let turned := Stage.after (Setting.stage { hosts := Cluster.replicationHosts 1 })
      [.connect "s" .replication none { autoReconnect := true }, .stop (.index 0),
        .ask "s" (.execute (.query "SELECT 1")), .start (.index 0), .stop (.index 1)]
    let answered := turned.run (World.onSession 0 (Act.execute (.query "SELECT 1")))
    turned.desk.session.current = some 1 ∧ turned.machine.held = [] ∧
      answered.1 = .error (.connectivity "mock-1:3307" "connection reset by peer") ∧
      answered.2.desk.session.closed = false ∧ answered.2.desk.session.current = some 2 ∧
      answered.2.desk.network.Usable 2 ∧
      Deed.invoke 2 (.query "SELECT 1") ∉ answered.2.desk.session.journal := by
  decide +kernel

end Scenario
end Failover
