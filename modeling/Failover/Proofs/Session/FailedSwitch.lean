import Failover.Proofs.Office.SwitchHonoured

/-!
A read-only switch that fails. With one writer, or where it is refused for a transaction, nothing
has changed. With a replica the request is remembered all the same, so that a second switch finds
nothing left to do; and a session that could not tell its replica to be read-only is served there.
-/
namespace Failover
open Desk Routine

namespace Session
variable {s s' : Session} {readOnly : Bool}

/-- A session that remembers the request and is served from a slot. -/
def told (s : Session) (readOnly : Bool) (a : Active) : Session :=
  { s with active := a, outage := s.outage.setReadOnly readOnly }

theorem core_told (h : s'.core = s.core) (readOnly : Bool) (a : Active) :
    (s'.told readOnly a).core = (s.told readOnly a).core :=
  of_core (fun s => (s.told readOnly a).core) (fun _ => rfl) h

end Session

theorem Carryover.unrefused_setReadOnly {ℓ κ : Type} (h : Handle) (readOnly : Bool) :
    (setReadOnly h readOnly : NetRoutine ℓ κ (Except Error Unit)).Answers Unrefused := by
  refine answers_bind _ fun understood => ?_
  split
  · exact unrefused_thenOk (Calls.unrefused_execute h _) fun _ => Calls.unrefused_ok ()
  · exact Calls.unrefused_ok ()

namespace Act
variable {ς : Outsiders} {t t' : List (Change Desk)} {d d' : Desk} {readOnly : Bool} {e : Error}

theorem plays_syncSlot {slot : Option Handle} {h : Handle} {x : Except Error Unit}
    (hplay : (Routine.onSome slot fun c => sync c h).Plays (OutsideLock ς) t d x t' d') :
    d'.session.core = d.session.core ∧ Unrefused x := by
  have hunrefused : (Routine.onSome slot fun c => sync c h).Answers Unrefused :=
    unrefused_onSome fun c => answers_bind _ fun _ => (Carryover.unrefused_sync c h).embed
  exact ⟨core_of_harmless (steps_onSome fun c => harmless_sync c h) hplay, hunrefused.plays hplay⟩

/-- A session that cannot move to its secondary stays, or cannot tell it to be read-only. -/
theorem moveToSecondary_failed {s : Session}
    (hplay : (moveToSecondary s).Plays (OutsideLock ς) t d (.error e) t' d') :
    e ≠ .inTransaction ∧ (d'.session.core = d.session.core ∨
      s.active = .primary ∧ d'.session.core = ({ d.session with active := .secondary }).core) := by
  unfold moveToSecondary at hplay
  split at hplay
  · rename_i h hactive _ _
    obtain ⟨x, t₁, d₁, hsync, hplay⟩ := plays_bind.1 hplay
    obtain ⟨hcore, hrefused⟩ := plays_syncSlot hsync
    cases x with
    | error e' =>
      obtain ⟨he, -, rfl⟩ := plays_pure.1 hplay
      cases he
      exact ⟨fun he => hrefused.1 (he ▸ rfl), .inl hcore⟩
    | ok _ =>
      obtain ⟨_, t₂, d₂, hturn, hplay⟩ := plays_bind.1 hplay
      obtain ⟨now, -, rfl⟩ := plays_change.1 hturn
      have htold := core_of_harmless (harmless_onNetwork (Carryover.keeps_setReadOnly h true)) hplay
      have hrefused := (Carryover.unrefused_setReadOnly h true).embed.plays hplay
      refine ⟨fun he => hrefused.1 (he ▸ rfl), .inr ⟨hactive, htold.trans ?_⟩⟩
      exact Session.of_core (fun s => ({ s with active := .secondary } : Session).core)
        (fun _ => rfl) hcore
  · cases (plays_pure.1 hplay).1

theorem answers_awaitPrimary :
    awaitPrimary.Answers fun x => ∀ e, x = .error e → e = .noPrimaryAvailable := by
  have hgiveUp : (do
      armRetry retryPeriod
      return .error .noPrimaryAvailable : Act (Except Error Unit)).Answers
      fun x => ∀ e, x = .error e → e = .noPrimaryAvailable := by
    refine answers_bind _ fun _ e he => ?_
    cases he
    rfl
  refine answers_bind _ fun s => ?_
  split
  · refine answers_bind _ fun x => ?_
    cases x with
    | ok _ => exact nofun
    | error e =>
      refine answers_bind _ fun s => ?_
      split
      · exact nofun
      · exact hgiveUp
  · exact hgiveUp

theorem moveToPrimary_failed {s : Session} (he : e ≠ .noPrimaryAvailable)
    (hplay : (moveToPrimary s).Plays (OutsideLock ς) t d (.error e) t' d') :
    e ≠ .inTransaction ∧ d'.session.core = d.session.core := by
  unfold moveToPrimary at hplay
  split at hplay
  · cases (plays_pure.1 hplay).1
  · obtain ⟨x, t₁, d₁, hsync, hplay⟩ := plays_bind.1 hplay
    obtain ⟨hcore, hrefused⟩ := plays_syncSlot hsync
    cases x with
    | error e' =>
      obtain ⟨he', -, rfl⟩ := plays_pure.1 hplay
      cases he'
      exact ⟨fun he => hrefused.1 (he ▸ rfl), hcore⟩
    | ok _ =>
      obtain ⟨_, t₂, d₂, -, hplay⟩ := plays_bind.1 hplay
      cases (plays_pure.1 hplay).1
  · exact (he (answers_awaitPrimary.plays hplay e rfl)).elim

theorem switchSingle_failed
    (hplay : (switchSingle readOnly).Plays (OutsideLock ς) t d (.error e) t' d') :
    d'.session.core = d.session.core := by
  obtain ⟨s, t₁, d₁, hread, hplay⟩ := plays_bind.1 hplay
  obtain ⟨now, rfl, rfl, rfl⟩ := plays_read.1 hread
  obtain ⟨busy, t₂, d₂, hread, hplay⟩ := plays_bind.1 hplay
  obtain ⟨now', rfl, rfl, rfl⟩ := plays_read.1 hread
  split at hplay
  · obtain ⟨-, -, rfl⟩ := plays_pure.1 hplay
    rfl
  · obtain ⟨x, t₃, d₃, htell, hplay⟩ := plays_bind.1 hplay
    have hcore := core_of_harmless (harmless_tell _ readOnly) htell
    cases x with
    | error e' =>
      obtain ⟨-, -, rfl⟩ := plays_pure.1 hplay
      exact hcore
    | ok _ =>
      obtain ⟨_, t₄, d₄, -, hplay⟩ := plays_bind.1 hplay
      cases (plays_pure.1 hplay).1

/-- With a replica a switch that fails is refused, or remembered. -/
theorem switchReplicated_failed (he : e ≠ .noPrimaryAvailable)
    (hplay : (switchReplicated readOnly).Plays (OutsideLock ς) t d (.error e) t' d') :
    if e = .inTransaction then d'.session.core = d.session.core
    else d.session.outage.readOnlyRequested = !readOnly ∧
      ∃ a, (a = d.session.active ∨ readOnly = true ∧ d.session.active = .primary ∧ a = .secondary) ∧
        d'.session.core = (d.session.told readOnly a).core := by
  obtain ⟨s, t₁, d₁, hread, hplay⟩ := plays_bind.1 hplay
  obtain ⟨now, rfl, rfl, rfl⟩ := plays_read.1 hread
  split at hplay
  · cases (plays_pure.1 hplay).1
  · rename_i hother
    obtain ⟨busy, t₂, d₂, hbusy, hplay⟩ := plays_bind.1 hplay
    obtain ⟨now', rfl, rfl, rfl⟩ := plays_read.1 hbusy
    split at hplay
    · obtain ⟨hx, -, rfl⟩ := plays_pure.1 hplay
      cases hx
      rw [if_pos rfl]
    · obtain ⟨_, t₃, d₃, hset, hplay⟩ := plays_bind.1 hplay
      obtain ⟨now'', -, rfl⟩ := plays_change.1 hset
      have hasked : d₂.session.outage.readOnlyRequested = !readOnly := by
        cases readOnly <;> simpa using hother
      split at hplay
      · rename_i hr
        obtain ⟨hrefused, hcore⟩ := moveToSecondary_failed hplay
        rw [if_neg hrefused]
        refine ⟨hasked, ?_⟩
        rcases hcore with hcore | ⟨hactive, hcore⟩
        · exact ⟨_, .inl rfl, hcore⟩
        · exact ⟨.secondary, .inr ⟨hr, hactive, rfl⟩, hcore⟩
      · obtain ⟨hrefused, hcore⟩ := moveToPrimary_failed he hplay
        rw [if_neg hrefused]
        exact ⟨hasked, _, .inl rfl, hcore⟩

theorem switch_again {x : Except Error Unit} (hp : d.session.policy = .replicated)
    (hasked : d.session.outage.readOnlyRequested = readOnly)
    (hplay : (locked () (switchReadOnly readOnly)).Plays (OutsideLock ς) t d x t' d') :
    x = .ok () ∧ d'.session.core = d.session.core := by
  obtain ⟨t₁, d₁, hamid, hplay⟩ := plays_locked.1 hplay
  have hcore : d₁.session.core = d.session.core :=
    hamid.preserves (P := fun _ d₁ => d₁.session.core = d.session.core)
      (fun _ _ _ _ h ha => ha.core.trans h) rfl
  obtain ⟨s, t₂, d₂, hread, hplay⟩ := plays_bind.1 hplay
  obtain ⟨now, rfl, rfl, rfl⟩ := plays_read.1 hread
  rw [Session.policy_of_core hcore, hp] at hplay
  obtain ⟨s, t₃, d₃, hread, hplay⟩ := plays_bind.1 hplay
  obtain ⟨now', rfl, rfl, rfl⟩ := plays_read.1 hread
  rw [Session.readOnlyRequested_of_core hcore, if_pos hasked.symm] at hplay
  obtain ⟨rfl, -, rfl⟩ := plays_pure.1 hplay
  exact ⟨rfl, hcore⟩

/-- A read-only switch that fails for another reason than that there is no primary leaves a session
with one writer as it was, and any that it finds in a transaction. Any other session keeps its
connections and is served where it was, or by the secondary to which it was to move; but it
remembers the request, so that the same switch succeeds from then on and does nothing. -/
theorem switch_failed (he : e ≠ .noPrimaryAvailable)
    (hplay : (locked () (switchReadOnly readOnly)).Plays (OutsideLock ς) t d (.error e) t' d') :
    if d.session.policy = .single ∨ e = .inTransaction then d'.session.core = d.session.core
    else d.session.outage.readOnlyRequested = !readOnly ∧
      (∃ a, (a = d.session.active ∨
          readOnly = true ∧ d.session.active = .primary ∧ a = .secondary) ∧
        d'.session.core = (d.session.told readOnly a).core) ∧
      ∀ x t'' d'', (locked () (switchReadOnly readOnly)).Plays (OutsideLock ς) t' d' x t'' d'' →
        x = .ok () ∧ d''.session.core = d'.session.core := by
  obtain ⟨t₁, d₁, hamid, hplay⟩ := plays_locked.1 hplay
  have hcore : d₁.session.core = d.session.core :=
    hamid.preserves (P := fun _ d₁ => d₁.session.core = d.session.core)
      (fun _ _ _ _ h ha => ha.core.trans h) rfl
  obtain ⟨s, t₂, d₂, hread, hplay⟩ := plays_bind.1 hplay
  obtain ⟨now, rfl, rfl, rfl⟩ := plays_read.1 hread
  cases hp : d.session.policy with
  | single =>
    rw [if_pos (.inl rfl)]
    rw [Session.policy_of_core hcore, hp] at hplay
    exact (switchSingle_failed hplay).trans hcore
  | replicated =>
    rw [Session.policy_of_core hcore, hp] at hplay
    have hend := switchReplicated_failed he hplay
    by_cases hbusy : e = .inTransaction
    · rw [if_pos hbusy] at hend
      rw [if_pos (.inr hbusy)]
      exact hend.trans hcore
    · rw [if_neg hbusy] at hend
      obtain ⟨hasked, a, ha, hold⟩ := hend
      rw [Session.readOnlyRequested_of_core hcore] at hasked
      rw [Session.active_of_core hcore] at ha
      have htold := hold.trans (Session.core_told hcore readOnly a)
      rw [if_neg (by simp [hbusy])]
      refine ⟨hasked, ⟨a, ha, htold⟩, fun x t'' d'' hagain => ?_⟩
      exact switch_again ((Session.policy_of_core htold).trans hp)
        (Session.readOnlyRequested_of_core htold) hagain

/-- An isolation level has been set, which a replica that is down cannot be given; the session keeps
its primary. -/
theorem switch_failed_level :
    let opened := (Act.connect.alone 0 [] Office.vacant).2.2
    let leveled := ((Act.execute (.setIsolation .serializable)).alone 0 [] opened).2.2
    let down : Network := { leveled.network with
      cluster := leveled.network.cluster.stop (Cluster.numbered .replica 1).endpoint }
    let d : Desk := ⟨leveled.session, down⟩
    ∃ e t' d', e ≠ .noPrimaryAvailable ∧
      (locked () (switchReadOnly true)).Plays (OutsideLock .everyone) [] d (.error e) t' d' ∧
      d'.session.active = .primary ∧ ∃ a, d'.session.core = (d.session.told true a).core := by
  intro opened leveled down d
  have hplay := plays_alone (OutsideLock .everyone) 0 (locked () (switchReadOnly true)) [] d
  have herror : ((locked () (switchReadOnly true)).alone 0 [] d).1 =
      .error (.connectivity "mock-1:3307" "connection reset by peer") := by decide +kernel
  rw [herror] at hplay
  have hactive : ((locked () (switchReadOnly true)).alone 0 [] d).2.2.session.active = .primary := by
    decide +kernel
  have hp : d.session.policy = .replicated := by decide +kernel
  have hend := switch_failed (by simp) hplay
  rw [if_neg (by simp [hp])] at hend
  obtain ⟨-, ⟨a, -, htold⟩, -⟩ := hend
  exact ⟨_, _, _, by simp, hplay, hactive, a, htold⟩

end Act

namespace Scenario

/-- The replica's server goes down, and a switch to it fails. The session is served by the replica
all the same, and the next switch to it says that all is well. -/
theorem failed_switch_kept :
    let before := Stage.after (Setting.stage { hosts := Cluster.replicationHosts 1 })
      [.connect "s" .replication none {}, .stop (.index 1)]
    let failed := before.run (World.onSession 0 (locked () (Act.switchReadOnly true)))
    let again := failed.2.run (World.onSession 0 (locked () (Act.switchReadOnly true)))
    before.desk.session.active = .primary ∧
      before.desk.session.outage.readOnlyRequested = false ∧
      failed.1 = .error (.connectivity "mock-1:3307" "connection reset by peer") ∧
      failed.2.desk.session.active = .secondary ∧ failed.2.desk.session.current = some 1 ∧
      failed.2.desk.session.outage.readOnlyRequested = true ∧ again.1 = .ok () := by
  decide +kernel

end Scenario
end Failover
