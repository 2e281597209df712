import Failover.Proofs.Session.MarkedSlots

/-!
A session with one writer is told to be read-only, or no longer to be: its connection first, and
once that has taken it the request is kept. Until it is told otherwise it abides by that.
-/
namespace Failover
open Desk Routine

namespace Act
variable {foreign : Handle → Prop} {t : List (Change Desk)} {d : Desk} {h : Handle} {v asked : Bool}

section Telling

def Telling (foreign : Handle → Prop) (h : Handle) (asked : Bool) (d : Desk) : Prop :=
  ServesOn foreign h d ∧ d.session.outage.readOnlyRequested = asked

/-- The connection was told, and nothing else has changed since. -/
structure Told (foreign : Handle → Prop) (h : Handle) (t : List (Change Desk)) (d : Desk) : Prop
    extends Lone d where
  primary : d.session.primary = some h
  left : ∀ x, d.Knows x → x ≠ h → ¬foreign x → (d.network.connection x).closed = true
  ready : d.Marked foreign ∨ ∃ x t', t = x :: t' ∧ x.own = true

theorem Telling.bystands {d' : Desk} (hd : Telling foreign h asked d) (hb : Bystands foreign d d') :
    Telling foreign h asked d' :=
  ⟨hd.1.bystands hb, hb.asked.trans hd.2⟩

theorem Telling.told (hd : Telling foreign h asked d) : Told foreign h t d := by
  obtain ⟨⟨hmarked, hp⟩, -⟩ := hd
  refine ⟨hmarked.toLone, hp, fun x hx hne => hmarked.left x hx ?_, .inl hmarked⟩
  rw [hp]
  exact fun he => hne (Option.some.inj he).symm

theorem Told.mark {n : Network} (now : Nat) (hd : Told foreign h t d)
    (hb : Bystands (fun x => foreign x ∨ x = h) d ⟨d.session, n⟩)
    (hf : (n.connection h).readOnly = v) :
    Guards foreign (.request (.switchReadOnly v)) t ⟨true, now, d, ⟨d.session, n⟩⟩ ∧
      Told foreign h (⟨true, now, d, ⟨d.session, n⟩⟩ :: t) ⟨d.session, n⟩ := by
  have hlone := hb.lone hd.toLone
  have hleft (x : Handle) (hx : d.Knows x) (hne : x ≠ h) (hfx : ¬foreign x) :
      (n.connection x).closed = true :=
    hb.spares.closed x (hd.known x hx) (not_or.2 ⟨hfx, hne⟩) (hd.left x hx hne hfx)
  have hguarded (hv : v = true) : Guarded foreign ⟨d.session, n⟩ := by
    intro _ x hx hfx
    by_cases hxh : x = h
    · subst hxh
      exact .inr (hf.trans hv)
    · exact .inl (hleft x hx hxh hfx)
  refine ⟨⟨fun _ => hlone, fun _ => id, .inl rfl, fun hduty _ _ => hguarded ?_,
      fun _ => hd.ready⟩,
    ⟨hlone, hd.primary, hleft, .inr ⟨_, _, rfl, rfl⟩⟩⟩
  cases v with
  | true => rfl
  | false => exact (hduty rfl).elim

/-- What is so once an answer has come. -/
def Heard {α : Type} (foreign : Handle → Prop) (h : Handle) (asked : Bool) :
    Except Error α → List (Change Desk) → Desk → Prop
  | .error _, _, d => Telling foreign h asked d
  | .ok _, t, d => Told foreign h t d

theorem ensures_directive (hd : Telling foreign h asked d) :
    (onNetwork (Calls.execute h (readOnlyStatement v))).Ensures
      ((guard foreign).rules (.request (.switchReadOnly v))) (Heard foreign h asked) t d := by
  unfold Calls.execute Calls.onHandle
  rw [onNetwork_bind]
  refine ensures_bind.2 fun now => ⟨.of_bystands (.refl d) hd.1.1, ?_⟩
  refine ensures_call (fun _ _ => Telling.bystands) (fun _ hd => hd.1.1) (fun _ _ _ hd => hd)
    (fun t d now hd => ?_) hd
  rcases d.network.execute_directive h v with ⟨⟨e, he⟩, hsame⟩ | ⟨hok, hset⟩
  · rw [he, hsame]
    exact ⟨.of_bystands (.refl d) hd.1.1, hd⟩
  · have hopen := hd.1.1.known h (.inl hd.1.2)
    have hrecord : d.network.Spares (fun x => foreign x ∨ x = h)
        (d.network.record h (Text.trimmed (readOnlyStatement v))) := .of_eq rfl
    have hspares := hrecord.trans (Network.spares_updateConnection
      (f := fun c => { c with readOnly := v }) (fun _ => id) (fun hno => (hno (.inr rfl)).elim) _)
    rw [hok, hset]
    exact Told.mark now hd.told (bystands_network hspares)
      (congrArg Connection.readOnly (Network.connection_updateConnection_self _ hopen))

theorem ensures_tell (hd : Telling foreign h asked d) :
    (onNetwork (Carryover.setReadOnly h v)).Ensures
      ((guard foreign).rules (.request (.switchReadOnly v))) (Heard foreign h asked) t d := by
  unfold Carryover.setReadOnly
  rw [onNetwork_bind]
  refine ensures_bind.2 fun now => ⟨.of_bystands (.refl d) hd.1.1, ?_⟩
  change (onNetwork (if d.network.versionAtLeast h (10, 0, 0) then _ else _)).Ensures _ _ _ _
  split
  · unfold thenOk
    rw [onNetwork_bind]
    refine (ensures_directive hd).bind fun x t d hd => ?_
    cases x <;> exact hd
  · exact hd.told

/-- What is so once a session was switched: it is marked as it was asked at last. -/
def Settled (foreign : Handle → Prop) (v asked : Bool) :
    Except Error Unit → List (Change Desk) → Desk → Prop
  | .error _, _, d => d.Marked foreign ∧ d.session.outage.readOnlyRequested = asked
  | .ok _, _, d => d.Marked foreign ∧ d.session.outage.readOnlyRequested = v

theorem settled_asked (hd : d.Lone)
    (hserving : ∀ x, d.session.primary = some x → (d.network.connection x).readOnly = v)
    (hleft : ∀ x, d.Knows x → d.session.primary ≠ some x → ¬foreign x →
      (d.network.connection x).closed = true)
    (hready : d.Marked foreign ∨ ∃ x t', t = x :: t' ∧ x.own = true) : (do
      updateOutage fun _ o => o.setReadOnly v
      return .ok () : Act (Except Error Unit)).Ensures
        ((guard foreign).rules (.request (.switchReadOnly v))) (Settled foreign v asked) t d := by
  have hmarked : Marked foreign
      ⟨{ d.session with outage := d.session.outage.setReadOnly v }, d.network⟩ :=
    ⟨⟨hd.policy, hd.active, hd.pings, hd.known⟩, fun x hx _ => hserving x hx, hleft⟩
  refine ensures_bind.2 (ensures_change.2 fun now => ?_)
  exact ⟨⟨fun _ => hmarked.toLone, fun _ => id, .inr ⟨v, rfl, rfl⟩, fun _ _ _ => hmarked.guarded,
    fun _ => hready⟩, hmarked, rfl⟩

theorem settled_told (hd : Told foreign h t d) : (do
      onNetwork (Routine.change fun _ n => n.updateConnection h fun c => { c with readOnly := v })
      updateOutage fun _ o => o.setReadOnly v
      return .ok () : Act (Except Error Unit)).Ensures
        ((guard foreign).rules (.request (.switchReadOnly v))) (Settled foreign v asked) t d := by
  have hspares : d.network.Spares (fun x => foreign x ∨ x = h)
      (d.network.updateConnection h fun c => { c with readOnly := v }) :=
    Network.spares_updateConnection (f := fun c => { c with readOnly := v }) (fun _ => id)
      (fun hno => (hno (.inr rfl)).elim) _
  have hflag : ((d.network.updateConnection h fun c => { c with readOnly := v }).connection
      h).readOnly = v :=
    congrArg Connection.readOnly
      (Network.connection_updateConnection_self _ (hd.known h (.inl hd.primary)))
  refine ensures_bind.2 (ensures_change.2 fun now => ?_)
  obtain ⟨hguards, htold⟩ := Told.mark now hd (bystands_network hspares) hflag
  refine ⟨hguards, settled_asked htold.toLone (fun x hx => ?_) (fun x hx hne hf => ?_) htold.ready⟩
  · cases htold.primary.symm.trans hx
    exact hflag
  · refine htold.left x hx (fun he => hne ?_) hf
    rw [he]
    exact htold.primary

theorem settled_switchSingle (hd : d.Marked foreign) :
    (switchSingle v).Ensures ((guard foreign).rules (.request (.switchReadOnly v)))
      (Settled foreign v d.session.outage.readOnlyRequested) t d := by
  refine ensures_look hd fun now t => ensures_look hd fun now t => ?_
  split
  · exact ⟨hd, rfl⟩
  · refine ensures_thenOk.2 ?_
    cases hp : d.session.primary with
    | none =>
      refine settled_asked hd.toLone (fun x hx => ?_) hd.left (.inl hd)
      cases hp.symm.trans hx
    | some h =>
      refine ensures_thenOk.2 ((ensures_tell ⟨⟨hd, hp⟩, rfl⟩).mono fun x t d hd => ?_)
      cases x with
      | error e => exact ⟨hd.1.1, hd.2⟩
      | ok _ => exact settled_told hd

theorem settled_switchReadOnly (hd : d.Marked foreign) :
    (switchReadOnly v).Ensures ((guard foreign).rules (.request (.switchReadOnly v)))
      (Settled foreign v d.session.outage.readOnlyRequested) t d := by
  refine ensures_look hd fun now t => ?_
  rw [hd.policy]
  exact settled_switchSingle hd

end Telling

/-- A session that is closed gives up its connection, and closes it. -/
theorem marks_emptySlots (hd : d.Marked foreign) :
    emptySlots.Marks foreign (.request .close) t d := by
  have hspares (x : Handle) (n : Network) :
      n.Spares foreign (if (n.connection x).closed then n else n.close x) := by
    split
    · exact .refl n
    · exact Network.spares_close x n
  have hclosed (x : Handle) (n : Network) (hx : x < n.connections.size) :
      ((if (n.connection x).closed then n else n.close x).connection x).closed = true := by
    split
    · assumption
    · exact congrArg Connection.closed (Network.connection_updateConnection_self _ hx)
  let d₁ : Desk := ⟨{ d.session with primary := none, secondary := none }, d.network⟩
  have hknown (x : Handle) (hx : d₁.Knows x) : d.Knows x := by
    rcases hx with hx | hop
    · cases hx
    · exact .inr hop
  have hleaving : Leaving foreign d.session.primary d₁ := by
    refine ⟨⟨hd.policy, hd.active, hd.pings, fun x hx => hd.known x (hknown x hx)⟩,
      fun hasked x hx hf => hd.guarded hasked x (hknown x hx) hf, nofun, fun x hx _ hf => ?_⟩
    by_cases hp : d.session.primary = some x
    · exact .inl hp
    · exact .inr (hd.left x (hknown x hx) hp hf)
  refine ensures_look hd fun now t => ensures_bind.2 (ensures_change.2 fun now =>
    ⟨⟨fun _ => hleaving.toLone, fun _ => id, .inl rfl, fun _ _ _ => hleaving.guarded, nofun⟩, ?_⟩)
  refine Ensures.bind (P := fun _ _ d => d.Marked foreign) ?_ fun _ t d hd =>
    marks_bystanding (steps_forM fun x =>
      bystands_onNetwork (steps_change fun _ n => hspares x n)) hd
  cases hp : d.session.primary with
  | none =>
    rw [hp] at hleaving
    exact hleaving.marked
  | some old =>
    rw [hp] at hleaving
    exact marks_leave hleaving (hspares old) (hclosed old) nofun

end Act

/-- Whoever works for a session with one writer can do so by the rules of one that was asked to be
read-only, or not to be. -/
theorem admits_guard (foreign : Handle → Prop) :
    (guard foreign).Admits (Network.Spares foreign) Operation.Neutral where
  lockFree _ _ hd hb := Bystands.lone hb hd
  own _ _ _ hown hd := Guards.lone hown hd
  order _ _ _ hd hb := Bystands.marked hb hd
  enough := ⟨.refl, fun _ => .of_eq rfl, fun h _ hop => Calls.allows_invoke h hop⟩
  side _ _ _ hs := hs.bystands
  ended _ _ _ := ⟨rfl, rfl, rfl, rfl, fun _ => id, fun _ _ => id, fun _ => id, .refl _⟩
  shut _ _ := ⟨rfl, rfl, rfl, rfl, fun _ => id, fun _ _ => id, fun _ => id, .refl _⟩
  cancel now _ _ :=
    ⟨rfl, rfl, rfl, rfl, fun _ hr => hr.cancel now, fun _ _ => id, fun _ => id, .refl _⟩
  failover _ failed _ hop _ _ hd := Act.marks_handleFailover failed hop hd
  switch readOnly _ _ hd := (Act.settled_switchReadOnly hd).mono fun x _ _ hd => by
    cases x <;> exact hd.1
  reconnect _ _ hd := (Act.marks_reconnect hd).mono fun _ _ _ hd => hd
  close _ _ hd := Act.marks_emptySlots hd
  background _ _ hd := Act.marks_reconnectIfDue hd
  retry _ _ _ _ hd := (Act.marks_retryRound hd).mono fun _ _ _ hd => hd
  ping _ _ harmed := by
    obtain ⟨d, hd, harmed⟩ := harmed
    exact (harmed hd.pings).elim

end Failover
