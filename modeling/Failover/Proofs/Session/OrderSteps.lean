import Failover.Proofs.Session.Order

/-!
What each step under a session's lock does to its order. The session is followed by what the lock
protects of it, which nobody else changes meanwhile.
-/
namespace Failover
open Desk Routine

namespace Session
variable {s s' : Session} {a b : Active} {now : Nat}

def Central (f : Session → Session) : Prop := ∀ s, (f s).core = (f s.core).core

theorem Central.congr {f : Session → Session} (hf : Central f) (hc : s'.core = s.core) :
    (f s').core = (f s).core := by
  rw [hf s', hc, ← hf s]

def mark (a : Active) (now : Nat) (s : Session) : Session :=
  { s with
    outage := match a with
      | .primary => s.outage.markPrimary now
      | .secondary => s.outage.markSecondary now }

def unmark (a : Active) (s : Session) : Session :=
  { s with
    outage := match a with
      | .primary => s.outage.resetPrimary
      | .secondary => s.outage.resetSecondary }

theorem mark_of_failed (h : s.failed a = true) : s.mark a now = s := by
  obtain ⟨⟩ := s
  cases a <;> simp_all [mark, failed, Outage.markPrimary, Outage.markSecondary]

theorem failed_mark (s : Session) (a : Active) (now : Nat) : (s.mark a now).failed a = true := by
  cases a
  · exact Outage.primaryFailed_markPrimary now s.outage
  · exact Outage.secondaryFailed_markSecondary now s.outage

theorem failed_mark_of_ne (hb : b ≠ a) : (s.mark a now).failed b = s.failed b := by
  by_cases ha : s.failed a = true
  · rw [mark_of_failed ha]
  · cases a <;> cases b <;>
      simp_all [mark, failed, Outage.markPrimary, Outage.markSecondary, Outage.primaryFailed,
        Outage.secondaryFailed]

theorem failed_mark_of_failed (hb : s.failed b = true) : (s.mark a now).failed b = true := by
  by_cases he : b = a
  · rw [he]
    exact failed_mark s a now
  · rwa [failed_mark_of_ne he]

theorem readOnlyRequested_mark (s : Session) (a : Active) (now : Nat) :
    (s.mark a now).outage.readOnlyRequested = s.outage.readOnlyRequested := by
  cases a <;> simp only [mark, Outage.markPrimary, Outage.markSecondary] <;> split <;> rfl

theorem central_mark (a : Active) (now : Nat) : Central (mark a now) := by
  intro s
  cases a <;> simp only [mark, core, Outage.markPrimary, Outage.markSecondary] <;>
    by_cases h : s.outage.primaryFailed <;> by_cases h' : s.outage.secondaryFailed <;>
    simp_all [Outage.primaryFailed, Outage.secondaryFailed]

theorem central_unmark (a : Active) : Central (unmark a) := by
  intro s
  cases a <;> rfl

theorem failed_unmark (s : Session) (a : Active) : (s.unmark a).failed a = false := by
  cases a <;> rfl

theorem failed_unmark_of_ne (hb : b ≠ a) : (s.unmark a).failed b = s.failed b := by
  cases a <;> cases b <;> first | rfl | exact (hb rfl).elim

theorem Well.mark (h : s.Well) (ha : s.policy = .single → a = .primary) : (s.mark a now).Well := by
  refine ⟨h.serves, fun hp b hb => failed_mark_of_failed (h.vacant hp b hb), fun hp => ?_⟩
  obtain ⟨hactive, hnone, hgood⟩ := h.single hp
  refine ⟨hactive, hnone, ?_⟩
  cases ha hp
  exact (failed_mark_of_ne (b := .secondary) (by simp)).trans hgood

theorem Routed.mark (h : s.Routed) : (s.mark a now).Routed := by
  refine ⟨fun ha => ?_, fun ha hr => ?_⟩
  · rw [readOnlyRequested_mark]
    exact (h.secondary ha).imp_right (failed_mark_of_failed (b := .primary))
  · rw [readOnlyRequested_mark] at hr
    exact failed_mark_of_failed (b := .secondary) (h.primary ha hr)

theorem Well.unmark (h : s.Well) (ha : s.slot a ≠ none) : (s.unmark a).Well := by
  refine ⟨h.serves, fun hp b hb => ?_, fun hp => ?_⟩
  · have hne : b ≠ a := by
      intro he
      subst he
      exact ha hb
    rw [failed_unmark_of_ne hne]
    exact h.vacant hp b hb
  · obtain ⟨hactive, hnone, hgood⟩ := h.single hp
    cases a <;> exact ⟨hactive, hnone, by first | exact hgood | rfl⟩

theorem Routed.unmark (h : s.Routed) (ha : s.active = a) : (s.unmark a).Routed := by
  subst ha
  refine ⟨fun hs => ?_, fun hs hr => ?_⟩
  · have hs' : s.active = .secondary := hs
    have := h.secondary hs'
    rw [hs']
    exact this
  · have hs' : s.active = .primary := hs
    rw [hs'] at hr ⊢
    exact h.primary hs' hr

theorem fair_mark (ha : s.policy = .single → a = .primary ∨ ¬s.Well) : Fair s (s.mark a now) := by
  have hprimary (hw : s.Well) (hp : s.policy = .single) : a = .primary :=
    (ha hp).resolve_right fun hn => hn hw
  refine ⟨rfl, rfl, fun hw => hw.mark (hprimary hw), fun hw hp hf _ => .inl ?_⟩
  rw [mark_of_failed (hprimary hw hp ▸ hf)]

theorem fair_unmark (ha : s.slot a ≠ none) : Fair s (s.unmark a) := by
  refine ⟨rfl, rfl, fun hw => hw.unmark ha, fun hw hp hf hf' => ?_⟩
  cases a with
  | primary => cases hf'
  | secondary => exact (ha (hw.single hp).2.1).elim

end Session

/-- The session is in order but for what is owed and for loose connections, and stands as given. -/
structure Held (ς : Outsiders) (s : Session) (loose : List Handle) (debt : Debt)
    (t : List (Change Desk)) (d : Desk) : Prop extends Order ς loose debt t d where
  core : d.session.core = s.core

def Debt.unwatch (a : Active) (debt : Debt) : Debt :=
  { debt with unwatched := fun b => decide (b = a) || debt.unwatched b }

def Debt.rewatch (a : Active) (debt : Debt) : Debt :=
  { debt with unwatched := fun b => decide (b ≠ a) && debt.unwatched b }

section Held
variable {ς : Outsiders} {s : Session} {loose loose' : List Handle} {debt debt' : Debt}
  {t : List (Change Desk)} {d d' : Desk} {own : Bool} {now : Nat} {a : Active}

theorem Held.of_order (h : Order ς loose debt t d) : Held ς d.session loose debt t d := ⟨h, rfl⟩

theorem Held.congr {s' : Session} (h : Held ς s loose debt t d) (hc : s.core = s'.core) :
    Held ς s' loose debt t d :=
  ⟨h.toOrder, h.core.trans hc⟩

theorem Held.pass (h : Held ς s loose debt t d) (ha : OutsideLock ς d d')
    (hown : own = true → d'.network.connections.size = d.network.connections.size) :
    Held ς s loose debt (⟨own, now, d, d'⟩ :: t) d' :=
  ⟨h.toOrder.pass ha hown, ha.core.trans h.core⟩

theorem Held.look (h : Held ς s loose debt t d) (now : Nat) :
    Held ς s loose debt (⟨true, now, d, d⟩ :: t) d :=
  h.pass (Harmless.refl d).outsideLock fun _ => rfl

theorem Held.wellAt (h : Held ς s loose debt t d) (hc : d.session.closed = false)
    (hd : debt.unready = false) : s.Well :=
  (h.well hc hd).of_core h.core.symm

/-- A change of the session that leaves the retry loop alone is fair, and the rest follows. -/
theorem Held.change {f : Session → Session} (hf : Session.Central f)
    (h : Held ς s loose debt t d) (hclosed : (f d.session).closed = d.session.closed)
    (hloop : (f d.session).retryLoop = d.session.retryLoop) (hfair : Fair s (f s))
    (hready : debt'.unready = debt.unready)
    (hrouted : debt'.misrouted = false → (f s).policy = .replicated →
      (f s).Routed ∨ debt.misrouted = false ∧ (s.Routed → (f s).Routed))
    (hwatched : ∀ a, debt'.unwatched a = false → (f s).failed a = false ∨
      debt.unwatched a = false ∧ ((f s).failed a = true → s.failed a = true))
    (htidy : Tidy loose t d → Tidy loose' (⟨true, now, d, ⟨f d.session, d.network⟩⟩ :: t)
      ⟨f d.session, d.network⟩) :
    Fair d.session (f d.session) ∧
      Held ς (f s) loose' debt' (⟨true, now, d, ⟨f d.session, d.network⟩⟩ :: t)
        ⟨f d.session, d.network⟩ := by
  have hcore := hf.congr h.core
  refine ⟨hfair.congr h.core hcore, h.amend hclosed (fun hc hd => ?_) (fun hc hd hp => ?_)
    (fun hc ht b hb => ?_) htidy, hcore⟩
  · have hw := h.wellAt (hclosed.symm.trans hc) (hready.symm.trans hd)
    exact (hfair.well hw).of_core hcore
  · rw [Session.policy_of_core hcore] at hp
    rcases hrouted hd hp with hr | ⟨hd, hr⟩
    · exact .inr (hr.of_core hcore)
    · have hpolicy : s.policy = .replicated := by
        rwa [Session.policy, hfair.topology] at hp
      rw [← Session.policy_of_core h.core] at hpolicy
      exact (h.routed (hclosed.symm.trans hc) hd hpolicy).imp_right fun hs =>
        (hr (hs.of_core h.core.symm)).of_core hcore
  · rcases hwatched b hb with hgood | ⟨hb, hfailed⟩
    · intro hf'
      rw [Session.failed_of_core hcore, hgood] at hf'
      cases hf'
    · refine (h.watched (hclosed.symm.trans hc) ht b hb).cons (fun hf' => ?_) fun ha => ?_
      · rw [Session.failed_of_core hcore] at hf'
        rw [Session.failed_of_core h.core]
        exact hfailed hf'
      · dsimp only
        rwa [hloop]

theorem Held.changeInPlace {f : Session → Session} (hf : Session.Central f)
    (h : Held ς s loose debt t d) (hslot : (f d.session).slot = d.session.slot)
    (hclosed : (f d.session).closed = d.session.closed)
    (hloop : (f d.session).retryLoop = d.session.retryLoop) (hfair : Fair s (f s))
    (hready : debt'.unready = debt.unready)
    (hrouted : debt'.misrouted = false → (f s).policy = .replicated →
      (f s).Routed ∨ debt.misrouted = false ∧ (s.Routed → (f s).Routed))
    (hwatched : ∀ a, debt'.unwatched a = false → (f s).failed a = false ∨
      debt.unwatched a = false ∧ ((f s).failed a = true → s.failed a = true)) :
    Fair d.session (f d.session) ∧
      Held ς (f s) loose debt' (⟨true, now, d, ⟨f d.session, d.network⟩⟩ :: t)
        ⟨f d.session, d.network⟩ :=
  h.change hf hclosed hloop hfair hready hrouted hwatched fun ht =>
    ht.congr hslot (acquired_cons_of_size fun _ => rfl) fun _ _ => rfl

theorem Held.mark (h : Held ς s loose debt t d) (now : Nat)
    (ha : s.policy = .single → a = .primary ∨ ¬s.Well) :
    Fair d.session (d.session.mark a now) ∧
      Held ς (s.mark a now) loose (debt.unwatch a)
        (⟨true, now, d, ⟨d.session.mark a now, d.network⟩⟩ :: t)
        ⟨d.session.mark a now, d.network⟩ := by
  refine h.changeInPlace (Session.central_mark a now) rfl rfl rfl (Session.fair_mark ha) rfl
    (fun hd _ => .inr ⟨hd, (·.mark)⟩) fun b hb => .inr ?_
  simp only [Debt.unwatch, Bool.or_eq_false_iff, decide_eq_false_iff_not] at hb
  rw [Session.failed_mark_of_ne hb.1]
  exact ⟨hb.2, id⟩

theorem Held.unmark (h : Held ς s loose debt t d) (now : Nat) (ha : s.slot a ≠ none)
    (hactive : s.active = a) :
    Fair d.session (d.session.unmark a) ∧
      Held ς (s.unmark a) loose (debt.rewatch a)
        (⟨true, now, d, ⟨d.session.unmark a, d.network⟩⟩ :: t)
        ⟨d.session.unmark a, d.network⟩ := by
  refine h.changeInPlace (Session.central_unmark a) rfl rfl rfl (Session.fair_unmark ha) rfl
    (fun hd _ => .inr ⟨hd, fun hr => hr.unmark hactive⟩) fun b hb => ?_
  by_cases he : b = a
  · subst he
    exact .inl (Session.failed_unmark s b)
  · refine .inr ⟨?_, fun hf => by rwa [Session.failed_unmark_of_ne he] at hf⟩
    simpa [Debt.rewatch, he] using hb

theorem Held.recordAttempt (h : Held ς s loose debt t d) (now : Nat) :
    Fair d.session { d.session with outage := d.session.outage.recordAttempt now } ∧
      Held ς { s with outage := s.outage.recordAttempt now } loose debt
        (⟨true, now, d,
          ⟨{ d.session with outage := d.session.outage.recordAttempt now }, d.network⟩⟩ :: t)
        ⟨{ d.session with outage := d.session.outage.recordAttempt now }, d.network⟩ :=
  h.changeInPlace (f := fun s => { s with outage := s.outage.recordAttempt now }) (fun _ => rfl) rfl
    rfl rfl ⟨rfl, rfl, fun hw => ⟨hw.serves, hw.vacant, hw.single⟩, fun _ _ _ _ => .inr rfl⟩ rfl
    (fun hd _ => .inr ⟨hd, fun hr => ⟨hr.secondary, hr.primary⟩⟩) fun _ hb => .inr ⟨hb, id⟩

theorem Held.setReadOnly (h : Held ς s loose debt t d) (now : Nat) (readOnly : Bool) :
    Fair d.session { d.session with outage := d.session.outage.setReadOnly readOnly } ∧
      Held ς { s with outage := s.outage.setReadOnly readOnly } loose { debt with misrouted := true }
        (⟨true, now, d,
          ⟨{ d.session with outage := d.session.outage.setReadOnly readOnly }, d.network⟩⟩ :: t)
        ⟨{ d.session with outage := d.session.outage.setReadOnly readOnly }, d.network⟩ :=
  h.changeInPlace (f := fun s => { s with outage := s.outage.setReadOnly readOnly }) (fun _ => rfl)
    rfl rfl rfl ⟨rfl, rfl, fun hw => ⟨hw.serves, hw.vacant, hw.single⟩, fun _ _ _ _ => .inl rfl⟩ rfl
    nofun fun _ hb => .inr ⟨hb, id⟩

theorem Held.turn (h : Held ς s loose debt t d) (now : Nat) (ha : s.slot a ≠ none)
    (hsingle : s.policy = .single → a = .primary ∨ ¬s.Well)
    (hrouted : ({ s with active := a } : Session).Routed) :
    Fair d.session { d.session with active := a } ∧
      Held ς { s with active := a } loose { debt with misrouted := false }
        (⟨true, now, d, ⟨{ d.session with active := a }, d.network⟩⟩ :: t)
        ⟨{ d.session with active := a }, d.network⟩ := by
  refine h.changeInPlace (f := fun s => { s with active := a }) (fun _ => rfl) rfl rfl rfl
    ⟨rfl, rfl, fun hw => ⟨?_, hw.vacant, fun hp => ?_⟩, fun _ _ _ _ => .inl rfl⟩ rfl
    (fun _ _ => .inl hrouted) fun _ hb => .inr ⟨hb, id⟩
  · obtain ⟨x, hx⟩ := Option.ne_none_iff_exists'.1 ha
    exact ⟨x, (Session.current_eq _).trans hx⟩
  · obtain ⟨-, hnone, hgood⟩ := hw.single hp
    exact ⟨(hsingle hp).resolve_right fun hn => hn hw, hnone, hgood⟩

theorem unwatch_unwatch (debt : Debt) (a : Active) :
    (debt.unwatch a).unwatch a = debt.unwatch a := by
  simp [Debt.unwatch]

theorem rewatch_unwatch (a : Active) : (Debt.unwatch a {}).rewatch a = {} := by
  simp [Debt.unwatch, Debt.rewatch]

theorem Held.changeLoop (h : Held ς s loose debt t d) (r : Repeater)
    (hwatched : d.session.closed = false → ∀ a,
      Watched a (⟨true, now, d, ⟨{ d.session with retryLoop := r }, d.network⟩⟩ :: t)
        ⟨{ d.session with retryLoop := r }, d.network⟩) :
    Held ς s loose { debt with unwatched := fun _ => false }
      (⟨true, now, d, ⟨{ d.session with retryLoop := r }, d.network⟩⟩ :: t)
      ⟨{ d.session with retryLoop := r }, d.network⟩ := by
  have hcore : ({ d.session with retryLoop := r } : Session).core = d.session.core := rfl
  refine ⟨h.amend rfl (fun hc hd => (h.well hc hd).of_core hcore)
    (fun hc hd hp => (h.routed hc hd hp).imp_right (·.of_core hcore))
    (fun hc _ a _ => hwatched hc a) fun ht => ?_, hcore.trans h.core⟩
  exact ht.congr rfl (acquired_cons_of_size fun _ => rfl) fun _ _ => rfl

theorem Held.rewatch (h : Held ς s loose debt t d)
    (hgood : d.session.closed = false → ∀ a, debt.unwatched a = true → debt'.unwatched a = false →
      s.failed a = false)
    (hready : debt'.unready = debt.unready) (hrouted : debt'.misrouted = debt.misrouted) :
    Held ς s loose debt' t d := by
  refine ⟨⟨h.shut, h.known, fun hc hd => h.well hc (hready ▸ hd),
    fun hc hd => h.routed hc (hrouted ▸ hd), fun hc ht a ha => ?_, h.tidy⟩, h.core⟩
  cases hu : debt.unwatched a with
  | false => exact h.watched hc ht a hu
  | true =>
    intro hf
    rw [Session.failed_of_core h.core, hgood hc a hu ha] at hf
    cases hf

theorem Held.reroute (h : Held ς s loose debt t d)
    (hr : d.session.closed = false → s.policy = .replicated → s.Routed) :
    Held ς s loose { debt with misrouted := false } t d := by
  refine ⟨⟨h.shut, h.known, h.well, fun hc _ hp => .inr ?_, h.watched, h.tidy⟩, h.core⟩
  rw [Session.policy_of_core h.core] at hp
  exact (hr hc hp).of_core h.core

end Held

namespace Act
variable {ς : Outsiders} {s : Session} {loose : List Handle} {debt : Debt}
  {t : List (Change Desk)} {d : Desk} {α : Type} {a : Active}

theorem orderly_harmless {r : Act α} (hr : r.Steps Harmless) (h : Held ς s loose debt t d) :
    r.Ensures (watch ς) (fun _ => Held ς s loose debt) t d :=
  hr.ensures (fun _ _ _ _ h ha => h.pass ha (by simp))
    (fun _ _ _ _ h hs => ⟨fun hc => ⟨hs.closed.symm.trans hc, .of_core hs.core⟩,
      h.pass hs.outsideLock fun _ => hs.keeps.size⟩) h

theorem core_of_harmless {r : Act α} {x : α} {t' : List (Change Desk)} {d' : Desk}
    (hr : r.Steps Harmless)
    (hplay : r.Plays (OutsideLock ς) t d x t' d') : d'.session.core = d.session.core := by
  have hcore : r.Ensures ⟨OutsideLock ς, fun _ _ => True⟩
      (fun _ _ d' => d'.session.core = d.session.core) t d :=
    hr.ensures (fun _ _ _ _ hc ha => ha.core.trans hc)
      (fun _ _ _ _ hc hs => ⟨trivial, hs.core.trans hc⟩) rfl
  exact hcore.plays hplay

theorem orderly_session {f : Session → Act α} {Q : α → List (Change Desk) → Desk → Prop}
    (h : Held ς s loose debt t d)
    (hf : ∀ t, Held ς d.session loose debt t d → (f d.session).Ensures (watch ς) Q t d) :
    (session >>= f).Ensures (watch ς) Q t d := by
  refine ensures_bind.2 (ensures_read.2 fun now => ⟨fun hc => ⟨hc, .of_core rfl⟩, hf _ ?_⟩)
  exact Held.of_order (h.toOrder.pass (Harmless.refl d).outsideLock fun _ => rfl)

theorem orderly_markPrimary (h : Held ς s loose debt t d) :
    markPrimary.Ensures (watch ς) (fun _ t d => ∃ now,
      Held ς (s.mark .primary now) loose (debt.unwatch .primary) t d) t d := by
  refine ensures_transact.2 fun now => ?_
  obtain ⟨hfair, h⟩ := h.mark (a := .primary) now fun _ => .inl rfl
  exact ⟨fun hc => ⟨hc, hfair⟩, now, h⟩

theorem orderly_markSecondary (h : Held ς s loose debt t d) (hs : s.policy = .single → ¬s.Well) :
    markSecondary.Ensures (watch ς) (fun _ t d => ∃ now,
      Held ς (s.mark .secondary now) loose (debt.unwatch .secondary) t d) t d := by
  refine ensures_transact.2 fun now => ?_
  obtain ⟨hfair, h⟩ := h.mark (a := .secondary) now fun hp => .inr (hs hp)
  exact ⟨fun hc => ⟨hc, hfair⟩, now, h⟩

theorem orderly_failPrimary (x : Handle) (h : Held ς s loose debt t d) :
    (failPrimary x).Ensures (watch ς) (fun _ t d => ∃ now,
      Held ς (s.mark .primary now) loose (debt.unwatch .primary) t d) t d := by
  refine (orderly_markPrimary h).bind fun fresh t d hd => ?_
  obtain ⟨now, h⟩ := hd
  split
  · exact (orderly_harmless (harmless_updateBlacklist _ x) h).mono fun _ _ _ h => ⟨now, h⟩
  · exact ⟨now, h⟩

theorem orderly_failSecondary (x : Handle) (h : Held ς s loose debt t d)
    (hs : s.policy = .single → ¬s.Well) :
    (failSecondary x).Ensures (watch ς) (fun _ t d => ∃ now,
      Held ς (s.mark .secondary now) loose (debt.unwatch .secondary) t d) t d := by
  refine (orderly_markSecondary h hs).bind fun fresh t d hd => ?_
  obtain ⟨now, h⟩ := hd
  split
  · exact (orderly_harmless (harmless_updateBlacklist _ x) h).mono fun _ _ _ h => ⟨now, h⟩
  · exact ⟨now, h⟩

theorem orderly_primaryRecovered (x : Handle) (h : Held ς s loose debt t d)
    (ha : s.primary ≠ none) (hactive : s.active = .primary) :
    (primaryRecovered x).Ensures (watch ς)
      (fun _ => Held ς (s.unmark .primary) loose (debt.rewatch .primary)) t d := by
  refine ensures_bind.2 (ensures_change.2 fun now => ?_)
  obtain ⟨hfair, h⟩ := h.unmark (a := .primary) now ha hactive
  exact ⟨fun hc => ⟨hc, hfair⟩, orderly_harmless (harmless_updateBlacklist _ x) h⟩

theorem orderly_secondaryRecovered (x : Handle) (h : Held ς s loose debt t d)
    (ha : s.secondary ≠ none) (hactive : s.active = .secondary) :
    (secondaryRecovered x).Ensures (watch ς)
      (fun _ => Held ς (s.unmark .secondary) loose (debt.rewatch .secondary)) t d := by
  refine ensures_bind.2 (ensures_change.2 fun now => ?_)
  obtain ⟨hfair, h⟩ := h.unmark (a := .secondary) now ha hactive
  exact ⟨fun hc => ⟨hc, hfair⟩, orderly_harmless (harmless_updateBlacklist _ x) h⟩

theorem orderly_recordAttempt (h : Held ς s loose debt t d) :
    (updateOutage Outage.recordAttempt).Ensures (watch ς) (fun _ t d => ∃ now,
      Held ς { s with outage := s.outage.recordAttempt now } loose debt t d) t d := by
  refine ensures_change.2 fun now => ?_
  obtain ⟨hfair, h⟩ := h.recordAttempt now
  exact ⟨fun hc => ⟨hc, hfair⟩, now, h⟩

theorem orderly_setReadOnly (readOnly : Bool) (h : Held ς s loose debt t d) :
    (updateOutage fun _ o => o.setReadOnly readOnly).Ensures (watch ς)
      (fun _ => Held ς { s with outage := s.outage.setReadOnly readOnly } loose
        { debt with misrouted := true }) t d := by
  refine ensures_change.2 fun now => ?_
  obtain ⟨hfair, h⟩ := h.setReadOnly now readOnly
  exact ⟨fun hc => ⟨hc, hfair⟩, h⟩

theorem orderly_armRetry (delay : Nat) (h : Held ς s loose debt t d) :
    (armRetry delay).Ensures (watch ς)
      (fun _ => Held ς s loose { debt with unwatched := fun _ => false }) t d := by
  refine Ensures.bind (P := fun _ => Held ς s loose { debt with unwatched := fun _ => false })
    (ensures_transact.2 fun now => ?_) fun x t d h => by cases x <;> exact h
  have harmed (r : Repeater) (hr : d.session.closed = false → r.armed = true) :
      Held ς s loose { debt with unwatched := fun _ => false }
        (⟨true, now, d, ⟨{ d.session with retryLoop := r }, d.network⟩⟩ :: t)
        ⟨{ d.session with retryLoop := r }, d.network⟩ :=
    h.changeLoop r fun hc _ _ => .inl (hr hc)
  cases hr : (if d.session.closed then none else d.session.retryLoop.arm?) with
  | none =>
    refine ⟨fun hc => ⟨hc, .of_core rfl⟩, harmed d.session.retryLoop fun hc => ?_⟩
    rw [hc] at hr
    simpa [Repeater.arm?] using hr
  | some r =>
    refine ⟨fun hc => ⟨hc, .of_core rfl⟩, harmed r fun hc => ?_⟩
    rw [hc] at hr
    simp only [Bool.false_eq_true, if_false, Repeater.arm?] at hr
    split at hr
    · cases hr
    · cases hr
      rfl

/-- The loop may be stopped where nothing is failed, and where the budget is spent. -/
theorem orderly_stopRetry (h : Held ς s loose debt t d)
    (hs : d.session.closed = false → s.exhausted = true ∨ ∀ a, s.failed a = false) :
    stopRetry.Ensures (watch ς) (fun _ t d =>
      Held ς s loose { debt with unwatched := fun _ => false } t d ∧
        d.session.retryLoop.armed = false) t d := by
  refine ensures_bind.2 (ensures_change.2 fun now => ⟨fun hc => ⟨hc, .of_core rfl⟩, ?_,
    Repeater.armed_cancel now _⟩)
  have hcore : ({ d.session with retryLoop := d.session.retryLoop.cancel now } : Session).core =
      s.core := h.core
  refine h.changeLoop (d.session.retryLoop.cancel now) fun hc b => ?_
  rcases hs hc with hspent | hgood
  · exact watched_of_exhausted ((Session.exhausted_of_core hcore).trans hspent)
      (Repeater.armed_cancel now _)
  · intro hf
    rw [Session.failed_of_core hcore, hgood b] at hf
    cases hf

theorem orderly_turnTo {left : Option Handle} (x : Handle) (h : Held ς s loose debt t d)
    (ha : s.slot a ≠ none) (hsingle : s.policy = .single → a = .primary ∨ ¬s.Well)
    (hrouted : ({ s with active := a } : Session).Routed) :
    (turnTo a left x).Ensures (watch ς)
      (fun _ => Held ς { s with active := a } loose { debt with misrouted := false }) t d := by
  refine (orderly_harmless (steps_forM fun c => harmless_trySync c x) h).bind fun _ t d h => ?_
  refine ensures_change.2 fun now => ?_
  obtain ⟨hfair, h⟩ := h.turn now ha hsingle hrouted
  exact ⟨fun hc => ⟨hc, hfair⟩, h⟩

end Act

end Failover
