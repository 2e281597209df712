import Failover.Proofs.Session.Lawful

/-!
Work under a session's lock: what stays true meanwhile, what an answered ping shows, and what has
been carried over.
-/
namespace Failover
open Desk Routine

section Stable
variable {P R : List (Change Desk) → Desk → Prop}

/-- What happens without the lock leaves it true. -/
def Stable (P : List (Change Desk) → Desk → Prop) : Prop :=
  ∀ t d d' own now, P t d → SameCore d d' → P (⟨own, now, d, d'⟩ :: t) d'

/-- What leaves the slots alone leaves it true. -/
def Lasting (P : List (Change Desk) → Desk → Prop) : Prop :=
  ∀ t d d' own now, P t d → SameRoute d d' → P (⟨own, now, d, d'⟩ :: t) d'

/-- Nothing makes it false any more. -/
def Permanent (P : List (Change Desk) → Desk → Prop) : Prop :=
  ∀ t d d' own now, P t d → P (⟨own, now, d, d'⟩ :: t) d'

theorem Lasting.stable (hP : Lasting P) : Stable P :=
  fun t d d' own now hp ha => hP t d d' own now hp ha.sameRoute

theorem Permanent.lasting (hP : Permanent P) : Lasting P :=
  fun t d d' own now hp _ => hP t d d' own now hp

theorem Stable.and (hP : Stable P) (hR : Stable R) : Stable fun t d => P t d ∧ R t d :=
  fun t d d' own now hp ha => ⟨hP t d d' own now hp.1 ha, hR t d d' own now hp.2 ha⟩

theorem Lasting.and (hP : Lasting P) (hR : Lasting R) : Lasting fun t d => P t d ∧ R t d :=
  fun t d d' own now hp hs => ⟨hP t d d' own now hp.1 hs, hR t d d' own now hp.2 hs⟩

theorem Permanent.and (hP : Permanent P) (hR : Permanent R) : Permanent fun t d => P t d ∧ R t d :=
  fun t d d' own now hp => ⟨hP t d d' own now hp.1, hR t d d' own now hp.2⟩

theorem lasting_sound : Lasting fun _ d => Sound d := fun _ _ _ _ _ hs hr => hs.sameRoute hr

theorem lasting_fresh (h : Handle) : Lasting fun _ d => Fresh h d :=
  fun _ _ _ _ _ hf hr => hf.sameRoute hr

theorem stable_core (s : Session) : Stable fun _ d => d.session.core = s.core :=
  fun _ _ _ _ _ he ha => ha.core.trans he

theorem permanent_first (d₀ : Desk) : Permanent fun t d => first t d = d₀ :=
  fun _ _ _ _ _ hf => hf

theorem Answered.cons {h : Handle} {t : List (Change Desk)} (ha : Answered h t) (e : Change Desk) :
    Answered h (e :: t) := by
  obtain ⟨t₁, d₁, t₂, d₂, hplay, hsuffix⟩ := ha
  exact ⟨t₁, d₁, t₂, d₂, hplay, hsuffix.trans (List.suffix_cons e t)⟩

theorem permanent_answered (h : Handle) : Permanent fun t _ => Answered h t :=
  fun _ _ _ _ _ ha => ha.cons _

theorem permanent_exempt (duty : Duty) : Permanent (Exempt duty) := by
  intro t d d' own now hexempt
  rcases hexempt with hr | ⟨hping, p, limit, t₁, d₁, r, t₂, d₂, hp, hplay, hr, hsuffix⟩ | he
  · exact .inl hr
  · exact .inr (.inl ⟨hping, p, limit, t₁, d₁, r, t₂, d₂, hp, hplay, hr,
      hsuffix.trans (List.suffix_cons _ t)⟩)
  · exact .inr (.inr he)

theorem permanent_excused (duty : Duty) : Permanent (Excused duty) :=
  fun t d d' own now he a ha ht =>
    permanent_exempt duty t d d' own now (he a ha (throughout_cons.1 ht).2)

end Stable

namespace Act
variable {duty : Duty} {t : List (Change Desk)} {d : Desk} {P M : List (Change Desk) → Desk → Prop}
  {α : Type}

theorem ensures_routeUnsent {r : Act α} (hr : r.Steps RouteUnsent) (hP : Lasting P) (hp : P t d) :
    r.Ensures (house.rules duty) (fun _ => P) t d :=
  hr.ensures (fun t d d' now hp ha => hP t d d' false now hp (SameCore.sameRoute ha))
    (fun t d d' now hp hm => ⟨.of_routeUnsent hm, hP t d d' true now hp hm.toSameRoute⟩) hp

theorem ensures_coreUnsent {r : Act α} (hr : r.Steps CoreUnsent) (hP : Stable P) (hp : P t d) :
    r.Ensures (house.rules duty) (fun _ => P) t d :=
  hr.ensures (fun t d d' now hp ha => hP t d d' false now hp ha)
    (fun t d d' now hp hs =>
      ⟨.of_routeUnsent hs.routeUnsent, hP t d d' true now hp hs.toSameCore⟩) hp

theorem ensures_permanent {r : Act α} {ρ : Rules Desk} {Q : α → List (Change Desk) → Desk → Prop}
    (hr : r.Ensures ρ Q t d) (hM : Permanent M) (hm : M t d) :
    r.Ensures ρ (fun x t d => Q x t d ∧ M t d) t d :=
  Ensures.frame (fun _ _ h => h) (fun t d d' now hm _ => hM t d d' false now hm)
    (fun t d d' now hm ho => ⟨ho, hM t d d' true now hm⟩) hm hr

theorem ensures_session {f : Session → Act α} {Q : α → List (Change Desk) → Desk → Prop}
    (hP : Stable P) (hp : P t d)
    (hf : ∀ t, P t d → (f d.session).Ensures (house.rules duty) Q t d) :
    (session >>= f).Ensures (house.rules duty) Q t d :=
  ensures_bind.2 (ensures_read.2 fun now =>
    ⟨.of_routeUnsent (CoreUnsent.refl d).routeUnsent, hf _ (hP t d d true now hp (.refl d))⟩)

theorem ensures_onNetwork {r : NetRoutine Unit Errand α} {Q : α → List (Change Network) → Network →
      Prop} (hP : Stable P) (hp : P t d)
    (hr : r.Ensures ⟨Network.Grows, fun _ e => e.before.Grows e.after⟩ Q
      (t.map (Change.map network)) d.network) :
    (onNetwork r).Ensures (house.rules duty)
      (fun x t d => Q x (t.map (Change.map network)) d.network ∧ P t d) t d := by
  refine Ensures.embed (fun _ _ => rfl) ?_ ?_ ?_ hp hr
  · exact fun _ _ ha => ha.grows
  · exact fun t d d' now hp ha => hP t d d' false now hp ha
  · intro t d n now hp hg
    have hstill : CoreUnsent d { d with network := n } := .of_core rfl rfl hg
    exact ⟨.of_routeUnsent hstill.routeUnsent, hP t d _ true now hp hstill.toSameCore⟩

end Act

namespace Calls
variable {ℓ κ : Type} {t : List (Change Network)} {n : Network}

theorem ensures_ping (h : Handle) :
    (ping h : NetRoutine ℓ κ (Except Error Bool)).Ensures
      ⟨Network.Grows, fun _ e => e.before.Grows e.after⟩
      (fun x t n => Throughout (Network.Engaged h) t n → x = .ok true) t n := by
  refine ensures_bind.2 (ensures_read.2 fun now => ⟨Nat.le_refl _, ?_⟩)
  refine ensures_onHost (F := fun t' _ => ∃ e ∈ t', e.before = n)
    (fun now' => ⟨Network.grows_meet .ping _ n, fun t' n' ho => ?_⟩)
    (fun t' n' hf now' => ⟨Nat.le_refl _, fun ht => ?_⟩) (fun htrouble t' n' hf => ?_)
  · refine ho.preserves (P := fun t' _ => ∃ e ∈ t', e.before = n) ?_ ⟨_, List.mem_cons_self, rfl⟩
    intro t s s' time hd _
    obtain ⟨e, he, hn⟩ := hd
    exact ⟨e, List.mem_cons_of_mem _ he, hn⟩
  · obtain ⟨s, hs⟩ := ht.1.server
    simp only [Network.ping] at hs ⊢
    simp [hs, Except.map]
  · obtain ⟨e, he, rfl⟩ := hf
    have hcalm (ht : Throughout (Network.Engaged h) t' n') : False :=
      htrouble (ht.2 e he).answers
    exact ⟨fun _ ht => (hcalm ht).elim, fun _ _ ht => (hcalm ht).elim⟩

end Calls

namespace Act
variable {duty : Duty} {t : List (Change Desk)} {d : Desk} {P : List (Change Desk) → Desk → Prop}

theorem ensures_ping (h : Handle) (hP : Stable P) (hp : P t d) :
    (onNetwork (Calls.ping h)).Ensures (house.rules duty)
      (fun x t d => P t d ∧ (Throughout (Engaged h) t d → x = .ok true) ∧
        (x = .ok true → Answered h t)) t d := by
  refine (ensures_onNetwork hP hp (Calls.ensures_ping h)).and_plays.mono ?_
  intro x t' d' hd
  obtain ⟨⟨hx, hp⟩, hplay⟩ := hd
  refine ⟨hp, fun ht => hx (throughout_map.2 ht), ?_⟩
  intro he
  subst he
  exact ⟨t, d, t', d', hplay, List.suffix_refl t'⟩

theorem ensures_answering (slot : Option Handle) (hP : Stable P) (hp : P t d) :
    (answering slot).Ensures (house.rules duty)
      (fun x t d => P t d ∧ (∀ h, slot = some h → Throughout (Engaged h) t d → x = some h) ∧
        ∀ h, x = some h → slot = some h) t d := by
  cases slot with
  | none => exact ⟨hp, by simp, by simp⟩
  | some h =>
    refine (ensures_ping h hP hp).bind fun x t d hd => ?_
    obtain ⟨hp, hx, _⟩ := hd
    split
    · refine ⟨hp, ?_, ?_⟩
      · intro _ hd _
        cases hd
        rfl
      · intro _ hd
        cases hd
        rfl
    · rename_i hno
      refine ⟨hp, ?_, by simp⟩
      intro _ hd ht
      cases hd
      exact (hno (hx ht)).elim

/-- Settings that were carried over without trouble, while nobody else touched them, have arrived.
-/
theorem sync_carries {a b : Handle} {es : List (Change Desk)} {d' : Desk} (hab : a ≠ b)
    (hb : b < d.network.connections.size)
    (hplay : (sync a b).Plays SameCore t d (.ok ()) (es ++ t) d') (ha : Untouched a es)
    (hb' : Untouched b es) :
    (d.network.connection a).Carries (d'.network.connection b) := by
  obtain ⟨es', hes, hplay⟩ := hplay.log
  cases List.append_cancel_right hes
  have hkept := hplay (fun d d' => d.network.Leaves a d'.network ∧ d.network.Leaves b d'.network)
    fun e he ho => ⟨ha e he ho, hb' e he ho⟩
  have hsync : (sync a b).Ensures ⟨fun d d' => SameCore d d' ∧ d.network.Leaves a d'.network ∧
      d.network.Leaves b d'.network, fun _ _ => True⟩
      (fun r _ d' => r = .ok () →
        (d.network.connection a).Carries (d'.network.connection b)) t d := by
    refine ensures_bind.2 (ensures_change.2 fun now => ⟨trivial, ?_⟩)
    refine Ensures.mono (Ensures.embed (F := fun _ _ => True) (fun _ _ => rfl) ?_ ?_ ?_ trivial
      (Carryover.ensures_sync hab hb)) fun r t d' hq => hq.1
    · exact fun _ _ ho => ⟨ho.1.grows, ho.2⟩
    · exact fun _ _ _ _ _ _ => trivial
    · exact fun _ _ _ _ _ _ => ⟨trivial, trivial⟩
  exact hsync.plays hkept rfl

/-- While settings go over to a connection the session stays where it was, and so does what serves.
-/
structure Syncing (t : List (Change Desk)) (d : Desk) (b : Handle) (t' : List (Change Desk))
    (d' : Desk) : Prop where
  sound : Sound d'
  opened : b < d'.network.connections.size
  core : d'.session.core = d.session.core
  since : ∃ es, t' = es ++ t ∧ ∀ e ∈ es, e.before.session.current = d.session.current

theorem stable_syncing (b : Handle) : Stable (Syncing t d b) := by
  intro t' d₁ d₂ own now h ha
  obtain ⟨es, rfl, hes⟩ := h.since
  refine ⟨h.sound.sameRoute ha.sameRoute, Nat.lt_of_lt_of_le h.opened ha.grows,
    ha.core.trans h.core, _ :: es, rfl, ?_⟩
  intro e he
  rcases List.mem_cons.1 he with rfl | he
  · exact Session.current_of_route (Session.route_of_core h.core)
  · exact hes e he

theorem ensures_sync (a : Handle) {b : Handle} (hs : Sound d)
    (hb : b < d.network.connections.size) :
    (sync a b).Ensures (house.rules duty)
      (fun _ t' d' => Syncing t d b t' d' ∧ (d.session.current = some a → Synced a b t' d')) t d := by
  have hplain : (sync a b).Ensures (house.rules duty) (fun _ => Syncing t d b) t d := by
    refine ensures_bind.2 (ensures_change.2 fun now => ⟨.of_current rfl ?_, ?_⟩)
    · intro c op hsend
      cases (List.cons.inj (journal_of_sending? hsend)).1
    · refine ensures_coreUnsent (steps_onNetwork (Carryover.keeps_sync a b).grows) (stable_syncing b)
        ⟨⟨hs.primary, hs.secondary, ?_, hs.single⟩, hb, rfl, [_], rfl, ?_⟩
      · intro p hp
        rcases List.mem_cons.1 hp with rfl | hp
        · exact hb
        · exact hs.syncs p hp
      · intro e he
        rw [List.mem_singleton.1 he]
  refine hplain.and_plays.mono fun r t' d' hd => ?_
  obtain ⟨h, hplay⟩ := hd
  obtain ⟨es, hes, hserved⟩ := h.since
  refine ⟨h, fun ha => ⟨t, d, r, es, t', d', [], hplay, hes, rfl, ?_, ?_⟩⟩
  · exact fun e he => (hserved e he).trans ha
  · intro hr hab hua hub
    subst hr
    subst hes
    exact sync_carries hab hb hplay hua hub

end Act

theorem Synced.cons {a b : Handle} {t : List (Change Desk)} {d d' : Desk} (h : Synced a b t d)
    (hd : d.session.current = some a) (own : Bool) (now : Nat)
    (ho : own = true → d.network.Leaves b d'.network) :
    Synced a b (⟨own, now, d, d'⟩ :: t) d' := by
  obtain ⟨t₁, d₁, r, es, t₂, d₂, later, hplay, hes, hlater, hserved, hcarried⟩ := h
  refine ⟨t₁, d₁, r, es, t₂, d₂, _ :: later, hplay, hes, by rw [hlater]; rfl, ?_, ?_⟩
  · intro e he
    rcases List.mem_cons.1 he with rfl | he
    · exact hd
    · exact hserved e he
  · intro hr hab hua hub
    have hleaves : d.network.Leaves b d'.network := by
      cases own with
      | true => exact ho rfl
      | false => exact hub _ List.mem_cons_self rfl
    exact (hcarried hr hab hua fun e he => hub e (List.mem_cons_of_mem _ he)).congr hleaves

end Failover
