import Failover.Proofs.Office.ServingSlots

/-!
A read-only switch that succeeds. Where the request changes the session is served as it asks; a
request that was made before is taken as met, wherever the session is served now.
-/
namespace Failover
open Desk Routine

namespace Session
variable {s s' : Session} {readOnly : Bool}

/-- The session is served as it is asked to: by its primary, or read-only by its replica unless that
is failed. -/
def Honours (s : Session) : Bool → Prop
  | false => s.active = .primary
  | true => s.active = .secondary ∨ s.outage.secondaryFailed = true

theorem honours_of_core (hc : s'.core = s.core) : s'.Honours readOnly ↔ s.Honours readOnly := by
  rw [of_core (Honours · readOnly) (fun _ => by cases readOnly <;> rfl) hc]

theorem Routed.honours (h : s.Routed) (hs : ¬s.Honours s.outage.readOnlyRequested) :
    s.outage.readOnlyRequested = false ∧ s.active = .secondary ∧ s.outage.primaryFailed = true := by
  cases hr : s.outage.readOnlyRequested with
  | false =>
    rw [hr] at hs
    cases ha : s.active with
    | primary => exact (hs ha).elim
    | secondary => exact ⟨rfl, rfl, (h.secondary ha).resolve_left (by simp [hr])⟩
  | true =>
    rw [hr] at hs
    cases ha : s.active with
    | primary => exact (hs (.inr (h.primary ha hr))).elim
    | secondary => exact (hs (.inl ha)).elim

/-- While a session that may write looks for its primary it is served there as soon as it is found.
-/
structure Regaining (needs : Needs) (s : Session) : Prop where
  writable : s.outage.readOnlyRequested = false
  found : needs.primary = false → s.active = .primary ∧ s.outage.primaryFailed = false

theorem kept_regaining : Kept Regaining := by
  intro needs role x s s' h hw ht
  rcases ht with ⟨-, hslot, rfl⟩ | hseats
  · cases role with
    | primary => cases hslot
    | replica => exact ⟨h.writable, h.found⟩
    | unset => cases hw
  · have hwritable := hseats.readOnly.trans h.writable
    cases role with
    | primary =>
      refine ⟨hwritable, fun _ => ⟨?_, hseats.failed .primary⟩⟩
      rw [hseats.active]
      simp [moves, h.writable, Role.slot]
    | replica =>
      refine ⟨hwritable, fun hn => ?_⟩
      obtain ⟨ha, hf⟩ := h.found hn
      refine ⟨?_, (hseats.failed .primary).trans hf⟩
      rw [hseats.active]
      simp [moves, h.writable, hf, ha, Role.slot]
    | unset => cases hw

end Session

namespace Act
variable {ς : Outsiders} {s : Session} {debt : Debt} {t t' : List (Change Desk)} {d d' : Desk}
  {readOnly : Bool}

/-- A search for the primary that succeeds, or leaves the session there, ends with the session
there. -/
theorem active_of_awaitPrimary (h : Held ς s [] debt t d)
    (hr : s.outage.readOnlyRequested = false) (hf : s.failed .primary = true)
    (hplay : awaitPrimary.Plays (OutsideLock ς) t d (.ok ()) t' d') :
    d'.session.active = .primary := by
  have hgiveUp {s : Session} {t : List (Change Desk)} {d : Desk} (h : Held ς s [] debt t d) : (do
      armRetry retryPeriod
      return .error .noPrimaryAvailable : Act (Except Error Unit)).Ensures (watch ς)
      (fun x _ d => x = .ok () → d.session.active = .primary) t d :=
    (orderly_armRetry retryPeriod h).bind fun _ _ _ _ => nofun
  have hawait : awaitPrimary.Ensures (watch ς)
      (fun x _ d => x = .ok () → d.session.active = .primary) t d := by
    refine (orderly_harmless harmless_read h).bind fun s₁ t d h => ?_
    split
    · refine (orderly_seekFailed Session.kept_regaining h fun _ => ⟨hr, fun hn => ?_⟩).bind
        fun x t d hd => ?_
      · rw [hf] at hn
        cases hn
      · obtain ⟨needs, s', hx, hs, h⟩ := hd
        cases x with
        | ok _ =>
          have hnone : needs.primary = false ∧ needs.replica = false := by
            simpa [Needs.satisfied] using hx rfl
          exact fun _ => (Session.active_of_core h.core).trans (hs.found hnone.1).1
        | error e =>
          refine orderly_session h fun t h => ?_
          split
          · rename_i ha
            exact fun _ => ha
          · exact hgiveUp h
    · exact hgiveUp h
  exact hawait.plays hplay rfl

theorem honours_moveToSecondary {s₀ : Session} (hw : s₀.Well) (hp : s₀.policy = .replicated)
    (hactive : d.session.active = s₀.active)
    (hfailed : d.session.outage.secondaryFailed = s₀.outage.secondaryFailed)
    (hplay : (moveToSecondary s₀).Plays (OutsideLock ς) t d (.ok ()) t' d') :
    d'.session.Honours true := by
  unfold moveToSecondary at hplay
  split at hplay
  · rename_i x _ _ _
    obtain ⟨_, t₁, d₁, -, hplay⟩ := plays_thenOk.1 hplay
    obtain ⟨_, t₂, d₂, hturn, hplay⟩ := plays_bind.1 hplay
    obtain ⟨now, -, rfl⟩ := plays_change.1 hturn
    have hcore := core_of_harmless (harmless_onNetwork (Carryover.keeps_setReadOnly x true)) hplay
    exact .inl (Session.active_of_core hcore)
  · rename_i hstay
    obtain ⟨-, -, rfl⟩ := plays_pure.1 hplay
    cases ha : s₀.active with
    | secondary => exact .inl (hactive.trans ha)
    | primary =>
      refine .inr (hfailed.trans ?_)
      by_contra hf
      have hgood : s₀.outage.secondaryFailed = false := Bool.eq_false_iff.2 hf
      cases hx : s₀.secondary with
      | none => exact hf (hw.vacant hp .secondary hx)
      | some x => exact hstay x ha hgood hx

theorem honours_moveToPrimary {s₀ : Session} (h : Held ς s [] debt t d)
    (hr : s.outage.readOnlyRequested = false) (hw : s₀.Well) (hp : s₀.policy = .replicated)
    (hactive : s.active = s₀.active) (hfailed : s.failed = s₀.failed)
    (hplay : (moveToPrimary s₀).Plays (OutsideLock ς) t d (.ok ()) t' d') :
    d'.session.Honours false := by
  unfold moveToPrimary at hplay
  split at hplay
  · rename_i ha
    obtain ⟨-, -, rfl⟩ := plays_pure.1 hplay
    exact (Session.active_of_core h.core).trans (hactive.trans ha)
  · obtain ⟨_, t₁, d₁, -, hplay⟩ := plays_thenOk.1 hplay
    obtain ⟨_, t₂, d₂, hturn, hplay⟩ := plays_bind.1 hplay
    obtain ⟨now, -, rfl⟩ := plays_change.1 hturn
    obtain ⟨-, -, rfl⟩ := plays_pure.1 hplay
    rfl
  · rename_i ha hstay
    refine active_of_awaitPrimary h hr ?_ hplay
    rw [hfailed]
    by_contra hf
    have hgood : s₀.outage.primaryFailed = false := Bool.eq_false_iff.2 hf
    cases hx : s₀.primary with
    | none => exact hf (hw.vacant hp .primary hx)
    | some x => exact hstay x hgood hx

/-- A switch that succeeds leaves a session that was asked so before as it is, and any other is
served as the switch asks. -/
theorem honours_switchReadOnly (h : Order ς [] {} t d) (hw : d.session.Well)
    (hp : d.session.policy = .replicated)
    (hplay : (switchReadOnly readOnly).Plays (OutsideLock ς) t d (.ok ()) t' d') :
    if d.session.outage.readOnlyRequested = readOnly then d'.session.core = d.session.core
    else d'.session.Honours readOnly := by
  obtain ⟨s, t₁, d₁, hread, hplay⟩ := plays_bind.1 hplay
  obtain ⟨now, rfl, rfl, rfl⟩ := plays_read.1 hread
  rw [hp] at hplay
  obtain ⟨s, t₂, d₂, hread', hplay⟩ := plays_bind.1 hplay
  obtain ⟨now', rfl, rfl, rfl⟩ := plays_read.1 hread'
  split at hplay
  · rename_i hsame
    obtain ⟨-, -, rfl⟩ := plays_pure.1 hplay
    rw [if_pos hsame.symm]
  · rename_i hother
    rw [if_neg (Ne.symm hother)]
    have h := (orderly_harmless harmless_read (.of_order h)).plays hread
    have h := (orderly_harmless harmless_read h).plays hread'
    obtain ⟨busy, t₃, d₃, hbusy, hplay⟩ := plays_bind.1 hplay
    have h := (orderly_harmless harmless_read h).plays hbusy
    split at hplay
    · cases (plays_pure.1 hplay).1
    · obtain ⟨_, t₄, d₄, hset, hplay⟩ := plays_bind.1 hplay
      have h := (orderly_setReadOnly readOnly h).plays hset
      cases readOnly with
      | true =>
        have hactive := Session.active_of_core h.core
        have hfailed := Session.failed_of_core h.core
        exact honours_moveToSecondary hw hp hactive (congrFun hfailed .secondary) hplay
      | false => exact honours_moveToPrimary h rfl hw hp rfl rfl hplay

end Act

namespace Office
variable {ask : Request → Prop} {t₀ t t' : List (Change Desk)} {o₀ o : Office} {d' : Desk}
  {readOnly : Bool}

/-- A read-only switch that succeeds has happened, exactly if the session was not asked so before or
is served so already. One that was asked before and is not served so has had no good switch or lacks
its primary; then the switch changes nothing. -/
theorem switch_honoured (ho : o₀.Founded .everyone t₀)
    (h : Chronicle ask HandsIn (OutsideLock .everyone) t₀ o₀ t o) (hfree : o.Unlocked)
    (hopen : o.desk.session.closed = false) (hp : o.desk.session.policy = .replicated)
    (hplay : (locked () (Act.switchReadOnly readOnly)).Plays (OutsideLock .everyone) t o.desk (.ok ())
      t' d') :
    (d'.session.Honours readOnly ↔
      (o.desk.session.outage.readOnlyRequested = readOnly → o.desk.session.Honours readOnly)) ∧
    (o.desk.session.outage.readOnlyRequested = readOnly → ¬o.desk.session.Honours readOnly →
      d'.session.core = o.desk.session.core ∧ (Botched .everyone t ∨ readOnly = false ∧
        o.desk.session.active = .secondary ∧ o.desk.session.outage.primaryFailed = true)) := by
  have hvisitor (c : Clerk) (hc : HandsIn c) : Outsiders.everyone.handsIn ∧ HandsIn c :=
    ⟨trivial, hc⟩
  have horder : Order .everyone [] {} t o.desk := (ho.kept hvisitor h).inOrder hfree
  obtain ⟨t₁, d₁, hamid, hplay⟩ := plays_locked.1 hplay
  have hheld := ho.held h hfree (fun _ _ ha => ha) hamid
  have hend := Act.honours_switchReadOnly hheld.toOrder
    ((ho.well hvisitor h hopen).of_core hheld.core)
    ((Session.policy_of_core hheld.core).trans hp) hplay
  rw [Session.readOnlyRequested_of_core hheld.core] at hend
  split at hend
  · rename_i hsame
    have hcore := hend.trans hheld.core
    refine ⟨(Session.honours_of_core hcore).trans (imp_iff_right hsame).symm,
      fun _ hs => ⟨hcore, ?_⟩⟩
    refine (horder.routed hopen rfl hp).imp_right fun hr => ?_
    rw [← hsame] at hs ⊢
    exact hr.honours hs
  · rename_i hother
    exact ⟨iff_of_true hend fun hsame => (hother hsame).elim, fun hsame => (hother hsame).elim⟩

/-- A session turns to its replica when it is asked to. -/
theorem switch_honoured_replica : ∃ t₀ t o₀ o t' d', o₀.Founded .everyone t₀ ∧
    Chronicle (fun _ => True) HandsIn (OutsideLock .everyone) t₀ o₀ t o ∧ o.Unlocked ∧
    o.desk.session.closed = false ∧ o.desk.session.policy = .replicated ∧
    (locked () (Act.switchReadOnly true)).Plays (OutsideLock .everyone) t o.desk (.ok ()) t' d' ∧
    ¬o.desk.session.Honours true ∧ d'.session.Honours true := by
  have ho : (opened vacant).Founded .everyone (opening vacant) := founded_opened (by decide +kernel)
  have hfree : (opened vacant).Unlocked := unlocked_of_rest (by decide +kernel) (by decide +kernel)
  have hopen : (opened vacant).desk.session.closed = false := by decide +kernel
  have hp : (opened vacant).desk.session.policy = .replicated := by decide +kernel
  have hasked : (opened vacant).desk.session.outage.readOnlyRequested = false := by decide +kernel
  have hserved : (opened vacant).desk.session.active = .primary ∧
      (opened vacant).desk.session.outage.secondaryFailed = false := by decide +kernel
  have hplay := plays_alone (OutsideLock .everyone) 0 (locked () (Act.switchReadOnly true))
    (opening vacant) (opened vacant).desk
  have hok : ((locked () (Act.switchReadOnly true)).alone 0 (opening vacant)
      (opened vacant).desk).1 = .ok () := by decide +kernel
  rw [hok] at hplay
  refine ⟨_, _, _, _, _, _, ho, .opened, hfree, hopen, hp, hplay, ?_, ?_⟩
  · rintro (ha | hf)
    · rw [hserved.1] at ha
      cases ha
    · rw [hserved.2] at hf
      cases hf
  · have hrun : Chronicle (fun _ => True) HandsIn (OutsideLock .everyone) (opening vacant)
        (opened vacant) (opening vacant) (opened vacant) := .opened
    refine (switch_honoured ho hrun hfree hopen hp hplay).1.2 fun hsame => ?_
    rw [hasked] at hsame
    cases hsame

end Office

namespace Scenario

/-- The primary's server goes down, and the session turns to its replica on its own. Asked to write
again it says that it can, and is still served by the replica. -/
theorem switch_ignored :
    let turned := Stage.after (Setting.stage { hosts := Cluster.replicationHosts 1 })
      [.connect "s" .replication none {}, .stop (.index 0),
        .ask "s" (.execute (.query "SELECT 1"))]
    let answered := turned.run (World.onSession 0 (locked () (Act.switchReadOnly false)))
    turned.desk.session.closed = false ∧ turned.machine.held = [] ∧
      turned.desk.session.policy = .replicated ∧ answered.1 = .ok () ∧
      answered.2.desk.session.active = .secondary := by
  decide +kernel

end Scenario
end Failover
