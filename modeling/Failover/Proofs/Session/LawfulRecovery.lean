import Failover.Proofs.Session.LawfulSearch
import Failover.Session.Recovery

/-!
Recovery under a session's lock. What broke in a transaction goes to another connection only where
that is good and sits in the other slot, or where nothing is known against the slot that was lost.
-/
namespace Failover
open Desk Routine
open Carryover (Replay)

/-- The slots are those with which the lock was taken. -/
structure Settled (d₀ : Desk) (t : List (Change Desk)) (d : Desk) : Prop where
  start : first t d = d₀
  sound : Sound d
  route : d.session.route = d₀.session.route

/-- The connection that served when the lock was taken has been out of a transaction since. -/
def Free (t : List (Change Desk)) (d : Desk) : Prop :=
  ∀ a, (first t d).session.current = some a → ¬ Throughout (InTransaction a) t d

section Settled
variable {duty : Duty} {d₀ : Desk} {t : List (Change Desk)} {d : Desk} {a b : Handle}

theorem lasting_settled (d₀ : Desk) : Lasting (Settled d₀) :=
  fun _ _ _ _ _ h hs => ⟨h.start, h.sound.sameRoute hs, hs.route.trans h.route⟩

theorem permanent_free : Permanent Free :=
  fun _ _ _ _ _ hf a ha ht => hf a ha (throughout_cons.1 ht).2

theorem Free.excused (hf : Free t d) : Excused duty t d :=
  fun a ha ht => (hf a ha (ht.imp fun _ h => h.inTransaction)).elim

theorem Free.permitted (hf : Free t d) : Permitted b t d := fun a ha ht _ => (hf a ha ht).elim

namespace Settled

theorem primary (h : Settled d₀ t d) : d.session.primary = d₀.session.primary :=
  (Session.fields_of_route h.route).2.2.1

theorem secondary (h : Settled d₀ t d) : d.session.secondary = d₀.session.secondary :=
  (Session.fields_of_route h.route).2.2.2.1

theorem active (h : Settled d₀ t d) : d.session.active = d₀.session.active :=
  (Session.fields_of_route h.route).2.2.2.2

theorem options (h : Settled d₀ t d) : d.session.options = d₀.session.options :=
  (Session.fields_of_route h.route).2.1

theorem policy (h : Settled d₀ t d) : d.session.policy = d₀.session.policy :=
  congrArg (·.mode.policy) (Session.fields_of_route h.route).1

theorem current (h : Settled d₀ t d) : d.session.current = d₀.session.current :=
  Session.current_of_route h.route

theorem primary_of_single (h : Settled d₀ t d) (hp : d₀.session.policy = .single)
    (ha : d₀.session.current = some a) : d₀.session.primary = some a := by
  unfold Session.current at ha
  split at ha
  · exact ha
  · rw [← h.secondary, h.sound.single (h.policy.trans hp)] at ha
    cases ha

theorem permitted (h : Settled d₀ t d) (hb : d.session.current = some b) : Permitted b t d := by
  intro a ha _ hne
  rw [h.start, ← h.current, hb] at ha
  exact (hne (Option.some.inj ha)).elim

theorem loose (h : Settled d₀ t d) (hx : Excused duty t d) :
    Loose duty d₀.session.primary t d :=
  ⟨h.sound, hx, fun b hb => .inl (by rw [h.start, ← h.current, hb]), fun _ => h.primary⟩

theorem excused (h : Settled d₀ t d) {slot : Option Handle}
    (hslot : ∀ a, d₀.session.current = some a → slot = some a)
    (hno : ∀ a, slot = some a → Throughout (Engaged a) t d → none = some a) : Excused duty t d := by
  intro a ha ht
  rw [h.start] at ha
  cases hno a (hslot a ha) ht

theorem free (h : Settled d₀ t d) {slot : Option Handle}
    (hslot : ∀ a, d₀.session.current = some a → slot = some a)
    (hx : ∀ a, slot = some a → ¬ Throughout (InTransaction a) t d) : Free t d := by
  intro a ha ht
  rw [h.start] at ha
  exact hx a (hslot a ha) ht

end Settled
end Settled

theorem Desk.Sound.turn {d : Desk} (hs : Sound d) (slot : Active) :
    Sound { d with session := { d.session with active := slot } } :=
  ⟨hs.primary, hs.secondary, hs.syncs, hs.single⟩

theorem Moving.turn {duty : Duty} {s : Session} {h : Handle} {t : List (Change Desk)} {d : Desk}
    (hm : Moving duty s h t d) {slot : Active} (hslot : s.active ≠ slot)
    (hh : ({ s with active := slot } : Session).current = some h) (now : Nat) :
    Lawful duty t ⟨true, now, d, { d with session := { d.session with active := slot } }⟩ := by
  refine .of_synced hm.excused rfl fun a b ha hb _ => ⟨fun ho => ?_, ?_⟩
  · refine hslot ?_
    rw [← Session.of_core Session.active (fun _ => rfl) hm.core]
    exact ho.2.1.symm
  · have hsame : ({ d.session with active := slot } : Session).current =
        ({ s with active := slot } : Session).current :=
      Session.of_core (fun s => ({ s with active := slot } : Session).current) (fun _ => rfl) hm.core
    have hb' : ({ d.session with active := slot } : Session).current = some b := hb
    rw [hsame, hh] at hb'
    cases hb'
    exact hm.synced a ((Session.current_of_core hm.core).symm.trans ha)

def Session.Good (s : Session) (h : Handle) : Active → Prop
  | .primary => s.primary = some h ∧ s.outage.primaryFailed = false
  | .secondary => s.secondary = some h ∧ s.outage.secondaryFailed = false

/-- The session is bound for a good connection, which has answered, and it has cause to go there. -/
structure Bound (M : List (Change Desk) → Desk → Prop) (slot : Active) (h : Handle)
    (t : List (Change Desk)) (d : Desk) : Prop where
  sound : Sound d
  cause : M t d
  answered : Answered h t
  good : d.session.Good h slot

section Bound
variable {M : List (Change Desk) → Desk → Prop} {slot : Active} {h : Handle}
  {t : List (Change Desk)} {d : Desk} {s s' : Session}

theorem Session.Good.of_core (hg : s.Good h slot) (hc : s'.core = s.core) : s'.Good h slot := by
  cases slot with
  | primary =>
    exact ⟨(Session.primary_of_core hc).trans hg.1,
      (Session.of_core (·.outage.primaryFailed) (fun _ => rfl) hc).trans hg.2⟩
  | secondary =>
    exact ⟨(Session.secondary_of_core hc).trans hg.1,
      (Session.of_core (·.outage.secondaryFailed) (fun _ => rfl) hc).trans hg.2⟩

theorem Session.Good.turn (hg : s.Good h slot) (other : Active) :
    ({ s with active := other } : Session).Good h slot := by
  cases slot <;> exact hg

theorem Session.Good.current (hg : s.Good h slot) :
    ({ s with active := slot } : Session).current = some h := by
  cases slot <;> exact hg.1

theorem stable_bound (hM : Permanent M) : Stable (Bound M slot h) :=
  fun t d d' own now hb ha => ⟨hb.sound.sameRoute ha.sameRoute, hM t d d' own now hb.cause,
    hb.answered.cons _, hb.good.of_core ha.core⟩

theorem Bound.opened (hb : Bound M slot h t d) : h < d.network.connections.size := by
  cases slot with
  | primary => exact hb.sound.primary h hb.good.1
  | secondary => exact hb.sound.secondary h hb.good.1

end Bound

namespace Act
variable {duty : Duty} {d₀ d : Desk} {t : List (Change Desk)} {op : Option Operation}
  {P M : List (Change Desk) → Desk → Prop}

theorem lawful_inTransaction (slot : Option Handle) (hP : Stable P) (hp : P t d) :
    (inTransaction slot).Ensures (house.rules duty)
      (fun x t d => P t d ∧ (x = false → ∀ a, slot = some a → ¬ Throughout (InTransaction a) t d))
      t d := by
  refine ensures_read.2 fun now =>
    ⟨.of_routeUnsent (CoreUnsent.refl d).routeUnsent, hP t d d true now hp (.refl d), ?_⟩
  intro hx a he ht
  subst he
  have hyes : (d.network.connection a).inTransaction = true := ht.1
  simp [hyes] at hx

theorem lawful_relaunch (h : Handle) (hP : Stable P) (hp : P t d)
    (hperm : ∀ o, op = some o → Permitted h t d) :
    (relaunch op h).Ensures (house.rules duty) (fun _ => P) t d := by
  unfold relaunch Carryover.relaunch
  split
  · exact hp
  · rename_i o ho
    have hpermitted := hperm o (Option.filter_eq_some_iff.1 ho).1
    have hsend : (invoke h o).Ensures (house.rules duty) (fun _ => P) t d := by
      refine ensures_bind.2 (ensures_change.2 fun now => ⟨.of_current rfl ?_, ?_⟩)
      · intro b o' hsend
        cases (List.cons.inj (journal_of_sending? hsend)).1
        exact hpermitted
      · refine ensures_coreUnsent (steps_onNetwork (Calls.keeps_invoke h o).grows) hP ?_
        exact hP t d _ true now hp ⟨rfl, rfl, Nat.le_refl _⟩
    refine hsend.bind fun r t d hp => ?_
    cases r with
    | ok r => exact hp
    | error e => exact hp

theorem lawful_relaunchOnCurrent (hP : Stable P) (hp : P t d)
    (hperm : ∀ t d o b, P t d → op = some o → d.session.current = some b → Permitted b t d) :
    (relaunchOnCurrent op).Ensures (house.rules duty) (fun _ => P) t d := by
  refine ensures_session hP hp fun t hp => ?_
  split
  · rename_i h hh
    exact lawful_relaunch h hP hp fun o ho => hperm t d o h hp ho hh
  · exact hp

theorem lawful_giveUp (hs : Sound d) :
    (giveUp : Act Replay).Ensures (house.rules duty) (fun _ _ d => Sound d) t d :=
  (ensures_coreUnsent (steps_armRetry 0) lasting_sound.stable hs).bind fun _ _ _ hs => hs

theorem lawful_carryOn (h : Handle) (hP : Stable P) (hp : P t d)
    (hperm : ∀ t d o, P t d → op = some o → Permitted h t d) :
    (carryOn op h).Ensures (house.rules duty) (fun _ => P) t d :=
  (ensures_coreUnsent (steps_armRetry 0) hP hp).bind fun _ t d hp =>
    lawful_relaunch h hP hp fun o ho => hperm t d o hp ho

theorem lawful_turnTo {slot : Active} {left : Option Handle} {h : Handle} (hM : Permanent M)
    (hb : Bound M slot h t d) (hx : Excused duty t d) (hslot : d.session.active ≠ slot)
    (hleft : ∀ a, d.session.current = some a → left = some a) :
    (turnTo slot left h).Ensures (house.rules duty) (fun _ => Bound M slot h) t d := by
  refine (ensures_permanent (lawful_prepareMove left hb.sound hx hb.opened hleft)
    (hM.and (permanent_answered h)) ⟨hb.cause, hb.answered⟩).bind fun _ t d' hd => ?_
  obtain ⟨hmoving, hcause, hanswered⟩ := hd
  refine ensures_change.2 fun now => ⟨hmoving.turn hslot hb.good.current now, ?_⟩
  exact ⟨hmoving.sound.turn slot, hM _ _ _ _ _ hcause, hanswered.cons _,
    (hb.good.of_core hmoving.core).turn slot⟩

theorem lawful_searchSingle (h : Settled d₀ t d) (hx : Excused duty t d)
    (hp : d₀.session.policy = .single) :
    (searchSingle op d₀.session.primary).Ensures (house.rules duty) (fun _ _ d => Sound d) t d := by
  have hstable : Stable fun t d => Settled d₀ t d ∧ Excused duty t d :=
    ((lasting_settled d₀).and (permanent_excused duty).lasting).stable
  refine (lawful_inTransaction _ hstable ⟨h, hx⟩).bind fun busy t d hd => ?_
  obtain ⟨⟨h, hx⟩, hbusy⟩ := hd
  cases busy with
  | true => exact lawful_giveUp h.sound
  | false =>
    have hfree : Free t d := h.free (fun a ha => h.primary_of_single hp ha) (hbusy rfl)
    refine (ensures_permanent (lawful_reconnectSingle (h.loose hx)) permanent_free hfree).bind
      fun x t d hd => ?_
    obtain ⟨hl, hf⟩ := hd
    have hboth : Stable fun t d => Sound d ∧ Free t d :=
      (lasting_sound.and permanent_free.lasting).stable
    cases x with
    | ok _ =>
      exact (lawful_relaunchOnCurrent hboth ⟨hl.sound, hf⟩
        fun _ _ _ _ hp _ _ => hp.2.permitted).mono fun _ _ _ hp => hp.1
    | error e => exact lawful_giveUp hl.sound

theorem lawful_replaceSingle (h : Settled d₀ t d) (hx : Excused duty t d)
    (hp : d₀.session.policy = .single) :
    (replaceSingle op d₀.session.primary).Ensures (house.rules duty) (fun _ _ d => Sound d) t d := by
  have hstable : Stable fun t d => Settled d₀ t d ∧ Excused duty t d :=
    ((lasting_settled d₀).and (permanent_excused duty).lasting).stable
  refine ensures_session hstable ⟨h, hx⟩ fun t h => ?_
  split
  · exact ensures_when (fun _ => ensures_coreUnsent (steps_pause _) hstable h) (fun _ => h)
      fun _ _ h => lawful_searchSingle h.1 h.2 hp
  · exact lawful_giveUp h.1.sound

theorem lawful_primaryFailSingle (h : Settled d₀ t d) (hp : d₀.session.policy = .single) :
    (primaryFailSingle op).Ensures (house.rules duty) (fun _ _ d => Sound d) t d := by
  refine ensures_session (lasting_settled d₀).stable h fun t h => ?_
  dsimp only
  rw [h.primary]
  refine (ensures_answering _ (lasting_settled d₀).stable h).bind fun x t d hd => ?_
  obtain ⟨h, hno, hyes⟩ := hd
  cases x with
  | some c =>
    refine (ensures_routeUnsent (steps_primaryRecovered c) (lasting_settled d₀) h).bind
      fun _ t d h => ?_
    refine (lawful_relaunch c (lasting_settled d₀).stable h fun o _ a ha _ hne => ?_).mono
      fun _ _ _ h => h.sound
    rw [h.start] at ha
    have hsame := hyes c rfl
    rw [h.primary_of_single hp ha] at hsame
    exact (hne (Option.some.inj hsame).symm).elim
  | none =>
    have hx : Excused duty t d :=
      h.excused (fun a ha => h.primary_of_single hp ha) hno
    refine (ensures_routeUnsent (steps_forM steps_failPrimary)
      ((lasting_settled d₀).and (permanent_excused duty).lasting) ⟨h, hx⟩).bind
      fun _ _ _ h => lawful_replaceSingle h.1 h.2 hp

/-- The session turns to a good secondary, once there is cause to leave its primary. -/
theorem lawful_fallBackToSecondary {failed : Option Handle} (hl : Loose duty failed t d)
    (hfailed : d.session.primary = failed) (hM : Permanent M) (hm : M t d)
    (hperm : ∀ t d o h, Bound M .secondary h t d → op = some o → Permitted h t d) :
    (fallBackToSecondary op failed).Ensures (house.rules duty) (fun _ _ d => Sound d) t d := by
  have hstable := (stable_loose duty failed).and hM.lasting.stable
  refine ensures_session hstable ⟨hl, hm⟩ fun t hp => ?_
  obtain ⟨hl, hm⟩ := hp
  split
  · exact lawful_giveUp hl.sound
  · rename_i hgood
    split
    · exact lawful_giveUp hl.sound
    · rename_i h hh
      have hcore := hstable.and (stable_core d.session)
      have hgood : d.session.Good h .secondary := ⟨hh, by simpa using hgood⟩
      refine (ensures_ping h hcore ⟨⟨hl, hm⟩, rfl⟩).bind fun x t d' hd => ?_
      obtain ⟨⟨⟨hl, hm⟩, hc⟩, -, ha⟩ := hd
      split
      · have hb : Bound M .secondary h t d' := ⟨hl.sound, hm, ha rfl, hgood.of_core hc⟩
        have hactive := Session.of_core Session.active (fun _ => rfl) hc
        refine ensures_when (fun hprimary => ?_) (fun _ => hb) fun t d hb => ?_
        · refine lawful_turnTo hM hb hl.excused (by simp [hactive, hprimary]) fun a hcur => ?_
          rw [Session.current_of_core hc, Session.current, hprimary] at hcur
          exact hfailed.symm.trans hcur
        · exact (lawful_carryOn h (stable_bound hM) hb fun t d o hb ho => hperm t d o h hb ho).mono
            fun _ _ _ hb => hb.sound
      · exact lawful_giveUp hl.sound
      · exact (ensures_routeUnsent (steps_failSecondary h) lasting_sound hl.sound).bind
          fun _ _ _ hs => lawful_giveUp hs

theorem lawful_replacePrimary (h : Settled d₀ t d) (hx : Excused duty t d)
    (hop : ∀ o, op = some o → d₀.session.policy = .replicated ∧ d₀.session.active = .primary) :
    (replacePrimary op d₀.session.primary).Ensures (house.rules duty) (fun _ _ d => Sound d)
      t d := by
  have hboth : Stable fun t d => Settled d₀ t d ∧ Excused duty t d :=
    ((lasting_settled d₀).and (permanent_excused duty).lasting).stable
  refine ensures_session hboth ⟨h, hx⟩ fun t hp => ?_
  obtain ⟨h, hx⟩ := hp
  refine (lawful_inTransaction _ hboth ⟨h, hx⟩).bind fun busy t d' hd => ?_
  obtain ⟨⟨h', hx⟩, hbusy⟩ := hd
  split
  · rename_i hseek
    have hidle : busy = false := by simpa using (Bool.and_eq_true_iff.1 hseek).2
    have hfree (o : Operation) (ho : op = some o) : Free t d' :=
      h'.free (fun a ha => by rwa [Session.current, (hop o ho).2] at ha) (hbusy hidle)
    have hM : Permanent fun t d => ∀ o, op = some o → Free t d :=
      fun t d d' own now hf o ho => permanent_free t d d' own now (hf o ho)
    have hstable := (stable_loose duty d₀.session.primary).and hM.lasting.stable
    have hsought := ensures_permanent (lawful_reconnectReplicated (h'.loose hx)) hM hfree
    refine hsought.discard.bind fun _ t d hp => ?_
    refine ensures_session hstable hp fun t hp => ?_
    obtain ⟨hl, hf⟩ := hp
    split
    · rename_i hfailed
      exact lawful_fallBackToSecondary hl (hl.primary hfailed) hM hf
        fun _ _ o _ hb ho => (hb.cause o ho).permitted
    · exact (lawful_relaunchOnCurrent hstable ⟨hl, hf⟩
        fun _ _ o _ hp ho _ => (hp.2 o ho).permitted).mono fun _ _ _ hp => hp.1.sound
  · refine lawful_fallBackToSecondary (h'.loose hx) h'.primary (permanent_first d₀) h'.start ?_
    intro t d o b hd ho a _ _ _
    obtain ⟨-, rfl, hanswered, hslot, hgood⟩ := hd
    exact ⟨(hop o ho).1, .inl ⟨(hop o ho).2, hslot, hgood, hanswered⟩⟩

theorem lawful_leavePrimary (h : Settled d₀ t d) (hx : Excused duty t d)
    (hop : ∀ o, op = some o → d₀.session.policy = .replicated ∧ d₀.session.active = .primary) :
    (do d₀.session.primary.forM failPrimary; replacePrimary op d₀.session.primary : Act Replay).Ensures
      (house.rules duty) (fun _ _ d => Sound d) t d :=
  (ensures_routeUnsent (steps_forM steps_failPrimary)
    ((lasting_settled d₀).and (permanent_excused duty).lasting) ⟨h, hx⟩).bind
    fun _ _ _ h => lawful_replacePrimary h.1 h.2 hop

theorem lawful_primaryFailReplicated (h : Settled d₀ t d) (hp : d₀.session.policy = .replicated)
    (hactive : d₀.session.active = .primary) :
    (primaryFailReplicated op true).Ensures (house.rules duty) (fun _ _ d => Sound d) t d := by
  have hstable := (lasting_settled d₀).stable
  refine ensures_session hstable h fun t h => ?_
  dsimp only
  rw [if_pos rfl, h.primary]
  refine (ensures_answering _ hstable h).bind fun x t d hd => ?_
  obtain ⟨h, hno, _⟩ := hd
  cases x with
  | some c =>
    refine (ensures_routeUnsent (steps_primaryRecovered c) (lasting_settled d₀) h).bind
      fun _ t d h => ?_
    exact (lawful_relaunchOnCurrent hstable h fun _ _ _ _ h _ hb => h.permitted hb).mono
      fun _ _ _ h => h.sound
  | none =>
    refine lawful_leavePrimary h (h.excused (fun a ha => ?_) hno)
      fun _ _ => ⟨hp, hactive⟩
    rwa [Session.current, hactive] at ha

theorem lawful_primaryFailUnasked (h : Settled d₀ t d) (hx : Excused duty t d) :
    (primaryFailReplicated none false).Ensures (house.rules duty) (fun _ _ d => Sound d) t d := by
  refine ensures_session ((lasting_settled d₀).and (permanent_excused duty).lasting).stable
    ⟨h, hx⟩ fun t hp => ?_
  obtain ⟨h, hx⟩ := hp
  dsimp only
  rw [h.primary]
  exact lawful_leavePrimary h hx (by simp)

theorem lawful_replaceSecondary (h : Settled d₀ t d) (hx : Excused duty t d)
    (hp : d₀.session.policy = .replicated) (hactive : d₀.session.active = .secondary) :
    (replaceSecondary op).Ensures (house.rules duty) (fun _ _ d => Sound d) t d := by
  refine ensures_session ((lasting_settled d₀).and (permanent_excused duty).lasting).stable
    ⟨h, hx⟩ fun t hp => ?_
  obtain ⟨h, hx⟩ := hp
  split
  · rename_i hauto
    rw [h.options] at hauto
    have hsought := ensures_permanent (lawful_reconnectReplicated (h.loose hx)) (permanent_first d₀)
      h.start
    have hstable := (stable_loose duty d₀.session.primary).and (permanent_first d₀).lasting.stable
    refine hsought.discard.bind fun _ t d hl => ?_
    refine ensures_session hstable hl fun t hl => ?_
    have hcore := hstable.and (stable_core d.session)
    refine ensures_when (fun _ => ensures_coreUnsent (steps_armRetry retryPeriod) hcore ⟨hl, rfl⟩)
      (fun _ => ⟨hl, rfl⟩) fun t d' hp' => ?_
    split
    · exact hp'.1.1.sound
    · rename_i hgood
      refine (lawful_relaunchOnCurrent hcore hp' fun t d o b hd _ hb a ha _ hne => ?_).mono
        fun _ _ _ hp => hp.1.1.sound
      obtain ⟨⟨hl, rfl⟩, hc⟩ := hd
      have hopened : OpenedByHolder b t := (hl.accounted b hb).resolve_left fun hb' =>
        hne (Option.some.inj (hb'.symm.trans ha))
      refine ⟨hp, .inr (.inr ⟨hactive, hauto, hb, hopened, ?_⟩)⟩
      rw [Session.of_core (·.outage.secondaryFailed) (fun _ => rfl) hc]
      simpa using hgood
  · exact lawful_giveUp h.sound

/-- Of the two connections the session turns to its primary if that is good. -/
theorem lawful_secondaryFailReplicated (h : Settled d₀ t d)
    (hp : d₀.session.policy = .replicated) (hactive : d₀.session.active = .secondary) :
    (secondaryFailReplicated op).Ensures (house.rules duty) (fun _ _ d => Sound d) t d := by
  have hserves (a : Handle) (ha : d₀.session.current = some a) : d₀.session.secondary = some a := by
    rwa [Session.current, hactive] at ha
  have hstable := (lasting_settled d₀).stable
  have hboth := (lasting_settled d₀).and (permanent_excused duty).lasting
  refine ensures_session hstable h fun t h => ?_
  rw [h.secondary, h.primary]
  refine (ensures_answering _ hstable h).bind fun x t d hd => ?_
  obtain ⟨h, hno, _⟩ := hd
  cases x with
  | some c =>
    refine (ensures_routeUnsent (steps_secondaryRecovered c) (lasting_settled d₀) h).bind
      fun _ t d h => ?_
    exact (lawful_relaunchOnCurrent hstable h fun _ _ _ _ h _ hb => h.permitted hb).mono
      fun _ _ _ h => h.sound
  | none =>
    have hx : Excused duty t d := h.excused hserves hno
    refine (ensures_routeUnsent (steps_forM steps_failSecondary) hboth ⟨h, hx⟩).bind fun _ t d h => ?_
    refine ensures_session hboth.stable h fun t h => ?_
    have hcore := hboth.stable.and (stable_core d.session)
    split
    · exact lawful_replaceSecondary h.1 h.2 hp hactive
    · rename_i hgood
      split
      · exact lawful_replaceSecondary h.1 h.2 hp hactive
      · rename_i p hprimary
        have hgood : d.session.Good p .primary :=
          ⟨h.1.primary.trans hprimary, by simpa using hgood⟩
        refine (ensures_ping p hcore ⟨h, rfl⟩).bind fun x t d' hd => ?_
        obtain ⟨⟨⟨h, hx⟩, hc⟩, _, ha⟩ := hd
        split
        · have hb : Bound (fun t d => first t d = d₀) .primary p t d' :=
            ⟨h.sound, h.start, ha rfl, hgood.of_core hc⟩
          refine (lawful_turnTo (permanent_first d₀) hb hx (by simp [h.active, hactive])
            fun a ha => hserves a (h.current ▸ ha)).bind fun _ t d hb => ?_
          refine (lawful_carryOn p (stable_bound (permanent_first d₀)) hb ?_).mono
            fun _ _ _ hb => hb.sound
          intro t d o hd _ a _ _ _
          obtain ⟨-, rfl, hanswered, hslot, hwell⟩ := hd
          exact ⟨hp, .inr (.inl ⟨hactive, hslot, hwell, hanswered⟩)⟩
        · exact lawful_replaceSecondary h hx hp hactive
        · exact (ensures_routeUnsent (steps_failPrimary p) hboth ⟨h, hx⟩).bind
            fun _ _ _ h => lawful_replaceSecondary h.1 h.2 hp hactive

theorem lawful_recover (failed : Handle) (h : Settled d₀ t d) :
    (recover failed op).Ensures (house.rules duty) (fun _ _ d => Sound d) t d := by
  have hlasting := lasting_settled d₀
  refine ensures_session hlasting.stable h fun t h => ?_
  rw [h.active, h.policy]
  cases hactive : d₀.session.active with
  | primary =>
    refine (ensures_routeUnsent (steps_recordFailure failed op) hlasting h).bind fun _ t d h => ?_
    split
    · rename_i hp
      exact lawful_primaryFailSingle h hp
    · rename_i hp
      exact lawful_primaryFailReplicated h hp hactive
  | secondary =>
    refine (ensures_routeUnsent (steps_failSecondary failed) hlasting h).bind fun _ t d h => ?_
    split
    · exact h.sound
    · rename_i hp
      exact lawful_secondaryFailReplicated h hp hactive

/-- Whatever broke on whichever connection, the failover keeps to the rules. -/
theorem lawful_handleFailover (failed : Handle) (h : Settled d₀ t d) :
    (handleFailover failed op).Ensures (house.rules duty) (fun _ _ d => Sound d) t d := by
  have hstable := (lasting_settled d₀).stable
  refine ensures_session hstable h fun t h => ?_
  split
  · exact h.sound
  · rename_i c hc
    split
    · exact lawful_recover failed h
    · exact (lawful_relaunch c hstable h fun _ _ => h.permitted hc).mono fun _ _ _ h => h.sound

end Act
end Failover
