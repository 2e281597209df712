import Failover.Proofs.Session.UnderLock
import Failover.Proofs.Search.Result

/-!
A search under a session's lock: every connection it hands over takes its slot lawfully, once there
is cause to move the session.
-/
namespace Failover
open Desk Routine

/-- The connection served when the lock was taken, or the holder has opened it since. -/
def Accounted (c : Option Handle) (t : List (Change Desk)) (d : Desk) : Prop :=
  ∀ b, c = some b → (first t d).session.current = some b ∨ OpenedByHolder b t

theorem permanent_opened (h : Handle) : Permanent fun t _ => OpenedByHolder h t := by
  intro t d d' own now hd
  obtain ⟨e, he, hopened⟩ := hd
  exact ⟨e, List.mem_cons_of_mem _ he, hopened⟩

theorem permanent_accounted (c : Option Handle) : Permanent (Accounted c) :=
  fun t d d' own now h b hb => (h b hb).imp_right (permanent_opened b t d d' own now)

/-- There is cause to move the session, the connection that serves is accounted for, and a primary
that is failed is the one that was lost. -/
structure Loose (duty : Duty) (lost : Option Handle) (t : List (Change Desk)) (d : Desk) :
    Prop where
  sound : Sound d
  excused : Excused duty t d
  accounted : Accounted d.session.current t d
  primary : d.session.outage.primaryFailed = true → d.session.primary = lost

theorem stable_loose (duty : Duty) (lost : Option Handle) : Stable (Loose duty lost) := by
  intro t d d' own now h ha
  refine ⟨h.sound.sameRoute ha.sameRoute, permanent_excused duty t d d' own now h.excused, ?_, ?_⟩
  · rw [Session.current_of_core ha.core]
    exact permanent_accounted _ t d d' own now h.accounted
  · rw [Session.of_core (·.outage.primaryFailed) (fun _ => rfl) ha.core,
      Session.primary_of_core ha.core]
    exact h.primary

/-- A connection that the holder of the lock has opened, and to which nothing was ever carried over.
-/
structure Newfound (h : Handle) (t : List (Change Desk)) (d : Desk) : Prop extends Fresh h d where
  byHolder : OpenedByHolder h t

/-- The holder of the lock may put the connection, which it has opened, in a slot of the session. -/
structure Entitled (duty : Duty) (s : Session) (h : Handle) (t : List (Change Desk)) (d : Desk) :
    Prop where
  excused : Excused duty t d
  accounted : Accounted s.current t d
  byHolder : OpenedByHolder h t

theorem permanent_entitled (duty : Duty) (s : Session) (h : Handle) :
    Permanent (Entitled duty s h) := fun t d d' own now he =>
  ⟨permanent_excused duty t d d' own now he.excused,
    permanent_accounted _ t d d' own now he.accounted,
    permanent_opened h t d d' own now he.byHolder⟩

theorem Loose.entitled {duty : Duty} {lost : Option Handle} {h : Handle} {t : List (Change Desk)}
    {d : Desk} (hl : Loose duty lost t d) (hf : Newfound h t d) : Entitled duty d.session h t d :=
  ⟨hl.excused, hl.accounted, hf.byHolder⟩

theorem Session.current_or_primary (s : Session) (h : Handle) (o : Outage) :
    ({ s with primary := some h, active := s.active, outage := o } : Session).current = s.current ∨
      ({ s with primary := some h, active := s.active, outage := o } : Session).current = some h := by
  cases hs : s.active <;> simp [Session.current, hs]

theorem Session.current_or_secondary (s : Session) (h : Handle) (o : Outage) :
    ({ s with secondary := some h, active := s.active, outage := o } : Session).current =
        s.current ∨
      ({ s with secondary := some h, active := s.active, outage := o } : Session).current =
        some h := by
  cases hs : s.active <;> simp [Session.current, hs]

theorem lasting_newfound (h : Handle) : Lasting (Newfound h) := fun t d d' own now hf hs =>
  ⟨lasting_fresh h t d d' own now hf.toFresh hs, permanent_opened h t d d' own now hf.byHolder⟩

/-- A connection is about to take a slot: it has got the settings of the one that serves. -/
structure Moving (duty : Duty) (s : Session) (h : Handle) (t : List (Change Desk)) (d : Desk) :
    Prop where
  sound : Sound d
  excused : Excused duty t d
  core : d.session.core = s.core
  opened : h < d.network.connections.size
  synced : ∀ a, s.current = some a → Synced a h t d

theorem Desk.Sound.seat {d : Desk} {s : Session} {h : Handle} (hs : Sound d)
    (hh : h < d.network.connections.size)
    (hprimary : s.primary = d.session.primary ∨ s.primary = some h)
    (hsecondary : s.secondary = d.session.secondary ∨
      s.secondary = some h ∧ d.session.policy = .replicated)
    (htopology : s.topology = d.session.topology) (hjournal : s.journal = d.session.journal) :
    Sound ⟨s, d.network⟩ := by
  have hpolicy : s.policy = d.session.policy := by rw [Session.policy, Session.policy, htopology]
  have hopened {x : Handle} (hx : some h = some x) : x < d.network.connections.size := by
    cases hx
    exact hh
  refine ⟨fun x hx => ?_, fun x hx => ?_, ?_, fun hp => ?_⟩
  · rcases hprimary with hp | hp
    · exact hs.primary x (hp ▸ hx)
    · exact hopened (hp ▸ hx)
  · rcases hsecondary with hp | ⟨hp, -⟩
    · exact hs.secondary x (hp ▸ hx)
    · exact hopened (hp ▸ hx)
  · rw [Session.syncs, hjournal]
    exact hs.syncs
  · have hp' : d.session.policy = .single := hpolicy.symm.trans hp
    rcases hsecondary with he | ⟨-, hr⟩
    · exact he.trans (hs.single hp')
    · rw [hp'] at hr
      cases hr

theorem Moving.cons {duty : Duty} {s : Session} {h : Handle} {t : List (Change Desk)} {d d' : Desk}
    (hm : Moving duty s h t d) (ha : SameCore d d') (own : Bool) (now : Nat)
    (ho : own = true → d.network.Leaves h d'.network) :
    Moving duty s h (⟨own, now, d, d'⟩ :: t) d' := by
  refine ⟨hm.sound.sameRoute ha.sameRoute, permanent_excused duty t d d' own now hm.excused,
    ha.core.trans hm.core, Nat.lt_of_lt_of_le hm.opened ha.grows, fun a hc => ?_⟩
  exact (hm.synced a hc).cons ((Session.current_of_core hm.core).trans hc) own now ho

namespace Calls
variable {ℓ κ : Type} {t : List (Change Network)} {n : Network}

theorem ensures_opened (host : Host) :
    (connect host : NetRoutine ℓ κ (Except Error Handle)).Ensures
      ⟨Network.Grows, fun _ e => e.before.Grows e.after⟩
      (fun x t' n' => ∀ h, x = .ok h → n.connections.size ≤ h ∧ h < n'.connections.size ∧
        ∃ e ∈ t', e.own = true ∧ e.before.connections.size ≤ h ∧ h < e.after.connections.size)
      t n := by
  refine ensures_onHost (F := fun _ n' => n.Grows n')
    (fun now => ⟨Network.grows_meet .connect _ n, fun t' n' ho => ?_⟩)
    (fun t' n' hg now => ⟨Network.grows_connect host n', fun h hx => ?_⟩) (fun _ t' n' _ => ⟨?_, ?_⟩)
  · refine ho.preserves (P := fun _ n' => n.Grows n') ?_ (Network.grows_meet .connect _ n)
    exact fun _ _ _ _ hg ho => Nat.le_trans hg ho
  · unfold Network.connect at hx ⊢
    split at hx
    · cases hx
    · rename_i s hs
      dsimp only at hx ⊢
      split at hx
      · cases hx
        rename_i hup
        simp only [hup, if_true, Array.size_push]
        refine ⟨hg, Nat.lt_succ_self _, _, List.mem_cons_self, rfl, Nat.le_refl _, ?_⟩
        simp
      · cases hx
  · intro e h hd
    cases hd
  · intro a hd
    cases hd

end Calls

namespace Act
variable {duty : Duty} {lost : Option Handle} {s : Session} {h : Handle}
  {t : List (Change Desk)} {d : Desk}

theorem lawful_leaving {α : Type} {r : NetRoutine Unit Errand α}
    (hr : r.Steps fun n n' => n.Grows n' ∧ n.Leaves h n') (hm : Moving duty s h t d) :
    (onNetwork r).Ensures (house.rules duty) (fun _ => Moving duty s h) t d := by
  have hsteps : (onNetwork r).Steps fun d d' => CoreUnsent d d' ∧ d.network.Leaves h d'.network :=
    Steps.embed (fun _ _ hg => ⟨.of_core rfl rfl hg.1, hg.2⟩) hr
  refine hsteps.ensures (fun t d d' now hm ha => hm.cons ha false now (by simp)) ?_ hm
  exact fun t d d' now hm hs =>
    ⟨.of_routeUnsent hs.1.routeUnsent, hm.cons hs.1.toSameCore true now fun _ => hs.2⟩

theorem lawful_syncSlot (slot : Option Handle) (hs : Sound d) (hx : Excused duty t d)
    (hh : h < d.network.connections.size)
    (hslot : ∀ a, d.session.current = some a → slot = some a) :
    (Routine.onSome slot fun c => sync c h).Ensures (house.rules duty)
      (fun _ => Moving duty d.session h) t d := by
  refine ensures_onSome (fun hnone => ⟨hs, hx, rfl, hh, fun a ha => ?_⟩) fun c hc => ?_
  · rw [hslot a ha] at hnone
    cases hnone
  · refine (ensures_permanent (ensures_sync c hs hh) (permanent_excused duty) hx).mono ?_
    intro r t' d' hd
    obtain ⟨⟨hs', hsync⟩, hx'⟩ := hd
    refine ⟨hs'.sound, hx', hs'.core, hs'.opened, fun a ha => ?_⟩
    have hac := hslot a ha
    rw [hc] at hac
    cases hac
    exact hsync ha

theorem lawful_prepareMove (slot : Option Handle) (hs : Sound d) (hx : Excused duty t d)
    (hh : h < d.network.connections.size)
    (hslot : ∀ a, d.session.current = some a → slot = some a) :
    (slot.forM fun c => trySync c h).Ensures (house.rules duty)
      (fun _ => Moving duty d.session h) t d := by
  have hsame : (slot.forM fun c => trySync c h) =
      discard (Routine.onSome slot fun c => sync c h) := by
    cases slot <;> rfl
  rw [hsame]
  exact (lawful_syncSlot slot hs hx hh hslot).discard

theorem lawful_seat (old : Option Handle) {f : Session → Session}
    (hlawful : ∀ now, Lawful duty t ⟨true, now, d, ⟨f d.session, d.network⟩⟩)
    (hs : Sound ⟨f d.session, d.network⟩) (he : Entitled duty s h t d)
    (hc : (f d.session).current = s.current ∨ (f d.session).current = some h)
    (hp : (f d.session).outage.primaryFailed = true → (f d.session).primary = lost) :
    (do update f; retire old h : Act Unit).Ensures (house.rules duty) (fun _ => Loose duty lost)
      t d := by
  refine ensures_bind.2 (ensures_change.2 fun now => ⟨hlawful now, ?_⟩)
  refine ensures_coreUnsent (steps_retire old h) (stable_loose duty lost)
    ⟨hs, permanent_excused duty t d _ true now he.excused, ?_, hp⟩
  refine permanent_accounted _ t d _ true now fun b hb => ?_
  rcases hc with hc | hc
  · exact he.accounted b (hc.symm.trans hb)
  · cases hc.symm.trans hb
    exact .inr he.byHolder

theorem lawful_foundPrimarySingle (hl : Loose duty lost t d) (hf : Newfound h t d)
    (hp : d.session.policy = .single) :
    (foundPrimarySingle h).Ensures (house.rules duty) (fun _ => Loose duty lost) t d := by
  have hpermanent := permanent_entitled duty d.session h
  have hseat {t' : List (Change Desk)} {d' : Desk} (hm : Moving duty d.session h t' d')
      (he : Entitled duty d.session h t' d') : (do
        update fun s =>
          { s with primary := some h, active := .primary, outage := s.outage.resetPrimary }
        retire d.session.primary h : Act Unit).Ensures (house.rules duty)
        (fun _ => Loose duty lost) t' d' := by
    refine lawful_seat _ (fun now => ?_) (hm.sound.seat hm.opened (.inr rfl) (.inl rfl) rfl rfl)
      he (.inr rfl) (by simp)
    refine .of_synced hm.excused rfl fun a b ha hb hne => ⟨fun ho => ?_, ?_⟩
    · have hp' := ho.1
      rw [Session.policy_of_core hm.core, hp] at hp'
      cases hp'
    · cases hb
      exact hm.synced a ((Session.current_of_core hm.core).symm.trans ha)
  have hslot {t' : List (Change Desk)} (hx : Excused duty t' d) :
      (d.session.primary.forM fun c => trySync c h).Ensures (house.rules duty)
        (fun _ => Moving duty d.session h) t' d := by
    refine lawful_prepareMove _ hl.sound hx hf.opened fun a ha => ?_
    unfold Session.current at ha
    split at ha
    · exact ha
    · rw [hl.sound.single hp] at ha
      cases ha
  refine ensures_session hpermanent.lasting.stable (hl.entitled hf) fun t' he => ?_
  refine (ensures_permanent (hslot he.excused) hpermanent he).bind fun _ t' d' hm => ?_
  dsimp only
  split
  · refine (ensures_permanent (lawful_leaving (steps_change fun _ n => ?_) hm.1) hpermanent
      hm.2).bind fun _ t' d' hm => ?_
    · exact ⟨by simp [Network.Grows], Network.leaves_updateConnection (fun _ => by rfl) h h n⟩
    have htold := lawful_leaving (Carryover.leaves_setReadOnly h h true) hm.1
    exact (ensures_permanent htold hpermanent hm.2).discard.bind fun _ t' d' hm => hseat hm.1 hm.2
  · exact hseat hm.1 hm.2

theorem lawful_foundPrimaryReplicated (hl : Loose duty lost t d) (hf : Newfound h t d)
    (hp : d.session.policy = .replicated) :
    (foundPrimaryReplicated h).Ensures (house.rules duty) (fun _ => Loose duty lost) t d := by
  have hpermanent := permanent_entitled duty d.session h
  refine ensures_session hpermanent.lasting.stable (hl.entitled hf) fun t' he => ?_
  dsimp only
  split
  · rename_i hmoves
    refine (ensures_permanent (lawful_prepareMove _ hl.sound he.excused hf.opened fun a ha => ha)
      hpermanent he).bind fun _ t' d' hd => ?_
    obtain ⟨hm, he⟩ := hd
    refine lawful_seat _ (fun now => ?_) (hm.sound.seat hm.opened (.inr rfl) (.inl rfl) rfl rfl)
      he (.inr rfl) (by simp)
    refine .of_synced hm.excused rfl fun a b ha hb hne => ⟨fun ho => ?_, ?_⟩
    · obtain ⟨-, hactive, hcase⟩ := ho
      rw [← hactive] at hcase
      have hreadOnly : d'.session.outage.readOnlyRequested = d.session.outage.readOnlyRequested :=
        Session.of_core (·.outage.readOnlyRequested) (fun _ => rfl) hm.core
      have hasked : d'.session.outage.readOnlyRequested = true := hcase
      rw [hreadOnly] at hasked
      simp [hasked] at hmoves
    · cases hb
      exact hm.synced a ((Session.current_of_core hm.core).symm.trans ha)
  · rename_i hstays
    have hreadOnly : d.session.outage.readOnlyRequested = true := by simpa using hstays
    refine lawful_seat _ (fun now => ?_) (hl.sound.seat hf.opened (.inr rfl) (.inl rfl) rfl rfl)
      he (Session.current_or_primary _ _ _) (by simp)
    refine .of_overwrites he.excused rfl fun a b ha hb hne => ?_
    cases hactive : d.session.active with
    | primary =>
      have hb' : some h = some b := by simpa [Session.current, hactive] using hb
      cases hb'
      exact ⟨⟨hp, hactive.symm, by simpa only [hactive] using hreadOnly⟩, hf.toFresh⟩
    | secondary =>
      have hsame : d.session.current = some b := by
        simpa [Session.current, hactive] using hb
      rw [ha] at hsame
      exact (hne (Option.some.inj hsame)).elim

theorem lawful_foundReplicaReplicated (hl : Loose duty lost t d) (hf : Newfound h t d)
    (hp : d.session.policy = .replicated) :
    (foundReplicaReplicated h).Ensures (house.rules duty) (fun _ => Loose duty lost) t d := by
  have hpermanent := permanent_entitled duty d.session h
  refine ensures_session hpermanent.lasting.stable (hl.entitled hf) fun t' he => ?_
  dsimp only
  split
  · rename_i hmoves
    refine (ensures_permanent (lawful_prepareMove _ hl.sound he.excused hf.opened fun a ha => ha)
      hpermanent he).bind fun _ t' d' hd => ?_
    obtain ⟨hm, he⟩ := hd
    have hpolicy := (Session.policy_of_core hm.core).trans hp
    have hfailed : d'.session.outage.primaryFailed = d.session.outage.primaryFailed :=
      Session.of_core (·.outage.primaryFailed) (fun _ => rfl) hm.core
    have hprimary : d'.session.primary = d.session.primary :=
      Session.primary_of_core hm.core
    have hreadOnly : d'.session.outage.readOnlyRequested = d.session.outage.readOnlyRequested :=
      Session.of_core (·.outage.readOnlyRequested) (fun _ => rfl) hm.core
    refine lawful_seat _ (fun now => ?_)
      (hm.sound.seat hm.opened (.inl rfl) (.inr ⟨rfl, hpolicy⟩) rfl rfl) he (.inr rfl)
      fun hf' => hprimary.trans (hl.primary (hfailed.symm.trans hf'))
    refine .of_synced hm.excused rfl fun a b ha hb hne => ⟨fun ho => ?_, ?_⟩
    · obtain ⟨-, hactive, hcase⟩ := ho
      rw [← hactive] at hcase
      have hwell : d'.session.outage.readOnlyRequested = false ∧
          d'.session.outage.primaryFailed = false := hcase
      rw [hreadOnly, hfailed] at hwell
      simp [hwell] at hmoves
    · cases hb
      exact hm.synced a ((Session.current_of_core hm.core).symm.trans ha)
  · rename_i hstays
    have hcase : d.session.outage.readOnlyRequested = false ∧
        d.session.outage.primaryFailed = false := by simpa using hstays
    refine lawful_seat _ (fun now => ?_)
      (hl.sound.seat hf.opened (.inl rfl) (.inr ⟨rfl, hp⟩) rfl rfl) he
      (Session.current_or_secondary _ _ _) hl.primary
    refine .of_overwrites he.excused rfl fun a b ha hb hne => ?_
    cases hactive : d.session.active with
    | primary =>
      have hsame : d.session.current = some b := by
        simpa [Session.current, hactive] using hb
      rw [ha] at hsame
      exact (hne (Option.some.inj hsame)).elim
    | secondary =>
      have hb' : some h = some b := by simpa [Session.current, hactive] using hb
      cases hb'
      exact ⟨⟨hp, hactive.symm, by simpa only [hactive] using hcase⟩, hf.toFresh⟩

theorem lawful_found (role : Role) (hl : Loose duty lost t d) (hf : Newfound h t d) :
    (found role h).Ensures (house.rules duty) (fun _ => Loose duty lost) t d := by
  have hboth : Stable fun t d => Loose duty lost t d ∧ Newfound h t d :=
    (stable_loose duty lost).and (lasting_newfound h).stable
  have hreplica : (foundReplica h).Ensures (house.rules duty) (fun _ => Loose duty lost) t d := by
    refine ensures_session hboth ⟨hl, hf⟩ fun t' hp => ?_
    obtain ⟨hl, hf⟩ := hp
    cases hp : d.session.policy with
    | single =>
      exact ensures_coreUnsent (steps_onNetwork (Calls.steps_close h)) (stable_loose duty lost) hl
    | replicated => exact lawful_foundReplicaReplicated hl hf hp
  cases role with
  | primary =>
    refine ensures_session hboth ⟨hl, hf⟩ fun t' hp => ?_
    obtain ⟨hl, hf⟩ := hp
    cases hp : d.session.policy with
    | single => exact lawful_foundPrimarySingle hl hf hp
    | replicated => exact lawful_foundPrimaryReplicated hl hf hp
  | replica => exact hreplica
  | unset => exact hreplica

theorem steps_noteSeeking {deed : Deed} (hi : ∀ c op, deed ≠ .invoke c op)
    (hs : ∀ a b, deed ≠ .sync a b) : (note deed).Steps CoreUnsent := by
  refine steps_change fun _ d => ⟨⟨rfl, ?_, Nat.le_refl _⟩, fun c op hj => hi c op ?_⟩
  · cases deed with
    | sync a b => exact (hs a b rfl).elim
    | search needs => rfl
    | connect host => rfl
    | invoke c op => rfl
  · exact (List.cons.inj hj).1

theorem lawful_proberConnect (host : Host) (hl : Loose duty lost t d) :
    ((prober s).connect host).Ensures (house.rules duty)
      (fun x t d => Loose duty lost t d ∧ ∀ h, x = .ok h → Newfound h t d) t d := by
  refine (ensures_coreUnsent (steps_noteSeeking (by simp) (by simp))
    (stable_loose duty lost) hl).bind fun _ t d hl₀ => ?_
  have hboth : Stable fun t' d' => Loose duty lost t' d' ∧ d'.session.syncs = d.session.syncs :=
    (stable_loose duty lost).and fun _ _ _ _ _ he ha => ha.syncs.trans he
  refine (ensures_onNetwork hboth ⟨hl₀, rfl⟩ (Calls.ensures_opened host)).mono ?_
  intro x t' d' hd
  obtain ⟨hx, hl, hsyncs⟩ := hd
  refine ⟨hl, fun h he => ?_⟩
  obtain ⟨hnew, hopened, e, he, hown, hbefore, hafter⟩ := hx h he
  obtain ⟨c, hc, rfl⟩ := List.mem_map.1 he
  refine ⟨⟨hopened, fun y hy => ?_⟩, c, hc, hown, hbefore, hafter⟩
  rw [hsyncs] at hy
  exact Nat.not_lt.2 hnew (hl₀.sound.syncs _ hy)

theorem lawful_proberProbe (needs : Needs) (host : Host) (hl : Loose duty lost t d) :
    (Search.probe (prober s) needs host).Ensures (house.rules duty)
      (Search.Probed (Loose duty lost) fun role c =>
        (found role c).Ensures (house.rules duty) fun _ => Loose duty lost) t d := by
  have hstable := stable_loose duty lost
  have hexclude {t : List (Change Desk)} {d : Desk} (hl : Loose duty lost t d) :
      ((prober s).exclude host).Ensures (house.rules duty) (fun _ => Loose duty lost) t d :=
    ensures_coreUnsent (steps_onNetwork (steps_change fun _ n => by simp [Network.Grows])) hstable hl
  have hclose (c : Handle) {t : List (Change Desk)} {d : Desk} (hl : Loose duty lost t d) :
      ((prober s).close c).Ensures (house.rules duty) (fun _ => Loose duty lost) t d :=
    ensures_coreUnsent (steps_onNetwork (Calls.steps_close c)) hstable hl
  refine (lawful_proberConnect host hl).bind fun x t d hd => ?_
  obtain ⟨hl, hfresh⟩ := hd
  cases x with
  | error e => exact (hexclude hl).bind fun _ _ _ hl => hl
  | ok c =>
    have hboth : Stable fun t d => Loose duty lost t d ∧ Newfound c t d :=
      hstable.and (lasting_newfound c).stable
    refine (ensures_coreUnsent (steps_onNetwork (Calls.keeps_role _ c).grows) hboth
      ⟨hl, hfresh c rfl⟩).bind fun x t d hd => ?_
    obtain ⟨hl, hf⟩ := hd
    cases x with
    | error e => exact (hexclude hl).bind fun _ _ _ hl => (hclose c hl).bind fun _ _ _ hl => hl
    | ok role =>
      dsimp only
      split
      · exact lawful_found role hl hf
      · exact (hclose c hl).bind fun _ _ _ hl => hl

theorem lawful_search (needs : Needs) (hl : Loose duty lost t d) :
    (search needs).Ensures (house.rules duty) (fun _ => Loose duty lost) t d := by
  have hstable := stable_loose duty lost
  refine (ensures_coreUnsent (steps_noteSeeking (by simp) (by simp)) hstable hl).bind
    fun _ t d hl => ?_
  have hprune : (Routine.change fun now d =>
      { d with
        network := d.network.updateBlacklist d.session.registry
          (·.prune now (millis d.session.options.blacklistTimeoutSec)) } : Act Unit).Steps
      CoreUnsent :=
    steps_change fun _ d => .of_core rfl rfl (by simp [Network.Grows])
  refine (ensures_coreUnsent hprune hstable hl).bind fun _ t d hl => ?_
  refine ensures_session hstable hl fun t hl => ?_
  refine (ensures_coreUnsent (steps_read fun d => .refl d) hstable hl).bind fun b t d hl => ?_
  refine Search.ensures_twoPass (fun size t d hl => ?_) (fun needs h t d hl => ?_) b _ needs hl
  · exact ensures_coreUnsent (steps_onNetwork (steps_transact fun _ n => Nat.le_refl _)) hstable hl
  · exact lawful_proberProbe needs h hl

theorem lawful_seek (needs : Needs) (hl : Loose duty lost t d) :
    (seek needs).Ensures (house.rules duty) (fun _ => Loose duty lost) t d := by
  unfold seek
  split
  · exact hl
  · exact (lawful_search needs hl).bind fun _ _ _ hl => hl

theorem lawful_recordAttempt (hl : Loose duty lost t d) :
    (updateOutage Outage.recordAttempt).Ensures (house.rules duty) (fun _ => Loose duty lost)
      t d := by
  refine ensures_change.2 fun now =>
    ⟨.of_routeUnsent (.of_eq rfl rfl (Nat.le_refl _)), ?_, ?_, ?_, hl.primary⟩
  · exact hl.sound.sameRoute ⟨rfl, rfl, Nat.le_refl _⟩
  · exact permanent_excused duty t d _ true now hl.excused
  · exact permanent_accounted _ t d _ true now hl.accounted

theorem lawful_reconnectSingle (hl : Loose duty lost t d) :
    reconnectSingle.Ensures (house.rules duty) (fun _ => Loose duty lost) t d :=
  (lawful_recordAttempt hl).bind fun _ _ _ hl => lawful_seek _ hl

theorem lawful_reconnectReplicated (hl : Loose duty lost t d) :
    reconnectReplicated.Ensures (house.rules duty) (fun _ => Loose duty lost) t d := by
  refine (lawful_recordAttempt hl).bind fun _ t d hl => ?_
  refine ensures_session (stable_loose duty lost) hl fun t hl => ?_
  split
  · exact hl
  · exact lawful_seek _ hl

theorem lawful_reconnect (hl : Loose duty lost t d) :
    reconnect.Ensures (house.rules duty) (fun _ => Loose duty lost) t d := by
  refine ensures_session (stable_loose duty lost) hl fun t hl => ?_
  split
  · exact lawful_reconnectSingle hl
  · exact lawful_reconnectReplicated hl

end Act
end Failover
