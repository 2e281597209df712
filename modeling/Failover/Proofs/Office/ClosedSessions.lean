import Failover.Proofs.Office.OpenConnections
import Failover.Proofs.Office.ServingSlots
import Failover.Proofs.Session.Moves

/-!
Closed sessions. Once its closing has returned a session has neither connections nor loops any more,
and only a call to reconnect, or one to take writes again where it looks for its primary itself,
makes it open another connection.
-/
namespace Failover
open Desk Routine

namespace Session

/-- The hosts that it has tried to connect to, the latest first. -/
def dials (s : Session) : List Host :=
  s.journal.filterMap fun
    | .connect host => some host
    | _ => none

def Filled (s : Session) : Prop := s.primary.isSome = true ∨ s.secondary.isSome = true

end Session

/-- The call makes a session look for hosts even where it is closed. -/
def Duty.reopens (s : Session) : Duty → Prop
  | .request .reconnect => True
  | .request (.switchReadOnly false) => s.policy = .replicated ∧ s.options.autoReconnect = true
  | _ => False

theorem Duty.reopens_congr {s s' : Session} (ht : s'.topology = s.topology)
    (ho : s'.options = s.options) (duty : Duty) : duty.reopens s' ↔ duty.reopens s := by
  unfold Duty.reopens
  split <;> simp [Session.policy, ht, ho]

namespace Desk

/-- The session is closed and has no connection. -/
structure Shut (d : Desk) : Prop where
  closed : d.session.closed = true
  primary : d.session.primary = none
  secondary : d.session.secondary = none

structure Halted (d : Desk) : Prop where
  closed : d.session.closed = true
  retryLoop : d.session.retryLoop.armed = false
  pingLoop : d.session.pingLoop.armed = false

/-- What nothing changes that a session does. -/
structure Persists (d d' : Desk) : Prop where
  topology : d'.session.topology = d.session.topology
  options : d'.session.options = d.session.options
  closed : d.session.closed = true → d'.session.closed = true
  halted : d.Halted → d'.Halted

structure Idle (d d' : Desk) : Prop extends Persists d d' where
  primary : d'.session.primary = d.session.primary
  secondary : d'.session.secondary = d.session.secondary
  dials : d'.session.dials = d.session.dials
  size : d'.network.connections.size = d.network.connections.size

/-- What may happen to a session without its lock. A closed session stays so, and so do its loops.
-/
structure SameCoreDials (d d' : Desk) : Prop where
  core : d'.session.core = d.session.core
  dials : d'.session.dials = d.session.dials
  closed : d.session.closed = true → d'.session.closed = true
  halted : d.Halted → d'.Halted

variable {d d' : Desk}

theorem Shut.current (h : d.Shut) : d.session.current = none := by
  unfold Session.current
  cases d.session.active
  · exact h.primary
  · exact h.secondary

theorem Shut.not_filled (h : d.Shut) : ¬d.session.Filled := by
  simp [Session.Filled, h.primary, h.secondary]

theorem Idle.refl (d : Desk) : Idle d d := ⟨⟨rfl, rfl, id, id⟩, rfl, rfl, rfl, rfl⟩

theorem Idle.shut (h : Idle d d') (hs : d.Shut) : d'.Shut :=
  ⟨h.closed hs.closed, h.primary.trans hs.primary, h.secondary.trans hs.secondary⟩

theorem SameCoreDials.shut (h : SameCoreDials d d') (hs : d.Shut) : d'.Shut :=
  ⟨h.closed hs.closed, (Session.primary_of_core h.core).trans hs.primary,
    (Session.secondary_of_core h.core).trans hs.secondary⟩

theorem SameCoreDials.filled (h : SameCoreDials d d') (hf : d.session.Filled) : d'.session.Filled := by
  unfold Session.Filled at hf ⊢
  rwa [Session.primary_of_core h.core, Session.secondary_of_core h.core]

theorem Move.persists {said : Deed → Prop} {met : Outage.Event → Prop} (h : Move said met d d') :
    Persists d d' := by
  cases h with
  | arm r ho =>
    refine ⟨rfl, rfl, id, fun hh => ?_⟩
    have hc := hh.closed
    rw [ho] at hc
    cases hc
  | stop now =>
    exact ⟨rfl, rfl, id, fun hh => ⟨hh.closed, Repeater.armed_cancel now _, hh.pingLoop⟩⟩
  | _ => exact ⟨rfl, rfl, id, fun hh => ⟨hh.closed, hh.retryLoop, hh.pingLoop⟩⟩

theorem Move.filled {said : Deed → Prop} {met : Outage.Event → Prop} (h : Move said met d d')
    (hf : d.session.Filled) : d'.session.Filled := by
  cases h with
  | primary x a => exact .inl rfl
  | secondary x a => exact .inr rfl
  | _ => exact hf

theorem halted_cancelLoops {s : Session} (now : Nat) (n : Network) (hc : s.closed = true) :
    Halted ⟨s.cancelLoops now, n⟩ :=
  ⟨hc, Repeater.armed_cancel now _, Repeater.armed_cancel now _⟩

theorem Side.sameCoreDials {calls : Network → Network → Prop} {asked : Operation → Prop}
    (h : Side calls asked d d') : SameCoreDials d d' := by
  have hfinish {r : Repeater} (g : Nat) (hr : r.armed = false) : (r.finish g).armed = false := by
    unfold Repeater.finish
    split
    · rfl
    · exact hr
  have hstays {n : Network} {users : Nat} {reconnecting : Bool} {journal : List Deed} {o : Outage}
      (hh : d.Halted) : Halted ⟨{ d.session with users, reconnecting, journal, outage := o }, n⟩ :=
    ⟨hh.closed, hh.retryLoop, hh.pingLoop⟩
  cases h with
  | network n hk => exact ⟨rfl, rfl, id, hstays⟩
  | invoke x op _ _ => exact ⟨rfl, rfl, id, hstays⟩
  | count => exact ⟨Session.core_countQuery d.session, rfl, id, hstays⟩
  | idle r ho _ =>
    refine ⟨rfl, rfl, id, fun hh => ?_⟩
    have hc := hh.closed
    rw [ho] at hc
    cases hc
  | staff users reconnecting => exact ⟨rfl, rfl, id, hstays⟩
  | leave now =>
    unfold Session.leave
    dsimp only
    split
    · exact ⟨rfl, rfl, id, fun hh => halted_cancelLoops now _ hh.closed⟩
    · exact ⟨rfl, rfl, id, hstays⟩
  | ended g _ => exact ⟨rfl, rfl, id, fun hh => ⟨hh.closed, hfinish g hh.retryLoop, hh.pingLoop⟩⟩
  | rested g => exact ⟨rfl, rfl, id, fun hh => ⟨hh.closed, hh.retryLoop, hfinish g hh.pingLoop⟩⟩

end Desk

/-- The rules of closing. Whoever holds the lock of a shut session leaves it shut and connects to
nobody, save to serve a call that reopens it. -/
def sealing : Regime where
  lockFree := SameCoreDials
  own duty _ e := Persists e.before e.after ∧ (e.before.Shut → ¬duty.reopens e.before.session →
    e.after.Shut ∧ e.after.session.dials = e.before.session.dials ∧
      e.after.network.connections.size = e.before.network.connections.size)
  inOrder t d := (d.session.closed = false → d.session.Filled) ∧
    ((∃ e ∈ t, e.after.Halted) → d.Halted)
  upon duty d := duty = .request .close → d.Shut ∧ d.Halted

theorem Desk.Idle.permitted {duty : Duty} {t : List (Change Desk)} {d d' : Desk} {now : Nat}
    (h : Idle d d') : (sealing.rules duty).own t ⟨true, now, d, d'⟩ :=
  ⟨h.toPersists, fun hs _ => ⟨h.shut hs, h.dials, h.size⟩⟩

namespace Act
variable {duty : Duty} {t : List (Change Desk)} {d d' : Desk} {own : Bool} {now : Nat} {α : Type}

theorem inOrder_cons (h : sealing.inOrder t d) (hfilled : d.session.Filled → d'.session.Filled)
    (hclosed : d.session.closed = true → d'.session.closed = true)
    (hhalted : d.Halted → d'.Halted) : sealing.inOrder (⟨own, now, d, d'⟩ :: t) d' := by
  refine ⟨fun ho => hfilled (h.1 ?_), fun hd => ?_⟩
  · by_contra hc
    rw [hclosed (by simpa using hc)] at ho
    cases ho
  · obtain ⟨e, he, hh⟩ := hd
    rcases List.mem_cons.1 he with rfl | he
    · exact hh
    · exact hhalted (h.2 ⟨e, he, hh⟩)

theorem ensures_moves {r : Act α} (hr : r.Steps (Move (fun _ => True) fun _ => True))
    (h : sealing.inOrder t d)
    (hd : d.session.Filled ∨ d.session.closed = true ∧ duty.reopens d.session) :
    r.Ensures (sealing.rules duty) (fun _ => sealing.inOrder) t d := by
  have hall := hr.ensures (ρ := sealing.rules duty)
    (F := fun t d => sealing.inOrder t d ∧
      (d.session.Filled ∨ d.session.closed = true ∧ duty.reopens d.session)) ?_ ?_ ⟨h, hd⟩
  · exact hall.mono fun _ _ _ hq => hq.1
  · intro t d d' now hq ha
    refine ⟨inOrder_cons hq.1 ha.filled ha.closed ha.halted, hq.2.imp ha.filled fun hc => ?_⟩
    exact ⟨ha.closed hc.1, (duty.reopens_congr (Session.topology_of_core ha.core)
      (Session.options_of_core ha.core)).2 hc.2⟩
  · intro t d d' now hq hm
    have hb := hm.persists
    refine ⟨⟨hb, fun hs hn => ?_⟩, inOrder_cons hq.1 hm.filled hb.closed hb.halted,
      hq.2.imp hm.filled fun hc =>
        ⟨hb.closed hc.1, (duty.reopens_congr hb.topology hb.options).2 hc.2⟩⟩
    rcases hq.2 with hf | hc
    · exact (hs.not_filled hf).elim
    · exact (hn hc.2).elim

def Sealed (t : List (Change Desk)) (d : Desk) : Prop := sealing.inOrder t d ∧ d.Shut

theorem Sealed.idle (h : Sealed t d) (hi : Idle d d') : Sealed (⟨own, now, d, d'⟩ :: t) d' :=
  ⟨inOrder_cons h.1 (fun hf => (h.2.not_filled hf).elim) hi.closed hi.halted, hi.shut h.2⟩

theorem ensures_idle {r : Act α} (hr : r.Steps Idle) (h : Sealed t d) :
    r.Ensures (sealing.rules duty) (fun _ => Sealed) t d := by
  refine hr.ensures (fun t d d' now h ha => ?_) (fun t d d' now h hi => ⟨hi.permitted, h.idle hi⟩) h
  exact ⟨inOrder_cons h.1 ha.filled ha.closed ha.halted, ha.shut h.2⟩

theorem ensures_halted {r : Act α} (hr : r.Steps Idle) (h : d.Halted) :
    r.Ensures (anything SameCoreDials) (fun _ _ => Halted) t d :=
  hr.ensures (fun _ _ _ _ h ha => ha.halted h) (fun _ _ _ _ h hi => ⟨trivial, hi.halted h⟩) h

theorem sealed_read {β : Type} {f : Nat → Desk → β} {g : β → Act α}
    {Q : α → List (Change Desk) → Desk → Prop} (h : Sealed t d)
    (hg : ∀ now t, Sealed t d → (g (f now d)).Ensures (sealing.rules duty) Q t d) :
    (read f >>= g).Ensures (sealing.rules duty) Q t d :=
  ensures_bind.2 (ensures_read.2 fun now => ⟨(Idle.refl d).permitted, hg now _ (h.idle (.refl d))⟩)

theorem idle_read {f : Nat → Desk → α} : (read f : Act α).Steps Idle := steps_read .refl

theorem idle_setReadOnly (readOnly : Bool) :
    (updateOutage fun _ o => o.setReadOnly readOnly).Steps Idle :=
  steps_change fun _ _ =>
    ⟨⟨rfl, rfl, id, fun hh => ⟨hh.closed, hh.retryLoop, hh.pingLoop⟩⟩, rfl, rfl, rfl, rfl⟩

theorem idle_armRetry (delay : Nat) : (armRetry delay).Steps Idle := by
  refine (steps_transact fun _ d => ?_).bind fun armed => steps_forM fun g => trivial
  cases hc : d.session.closed with
  | true => exact .refl d
  | false =>
    dsimp only
    split
    · exact .refl d
    · refine ⟨⟨rfl, rfl, id, fun hh => ?_⟩, rfl, rfl, rfl, rfl⟩
      have hclosed := hh.closed
      rw [hc] at hclosed
      cases hclosed

theorem idle_stopRetry : stopRetry.Steps Idle :=
  Steps.bind (steps_change fun now _ =>
    ⟨⟨rfl, rfl, id, fun hh => ⟨hh.closed, Repeater.armed_cancel now _, hh.pingLoop⟩⟩, rfl, rfl, rfl,
      rfl⟩) fun _ => trivial

theorem idle_closeIfOpen (x : Handle) : (closeIfOpen x).Steps Idle := by
  refine steps_change fun _ d => ⟨⟨rfl, rfl, id, fun hh => ?_⟩, rfl, rfl, rfl, ?_⟩
  · exact ⟨hh.closed, hh.retryLoop, hh.pingLoop⟩
  · dsimp only
    split
    · rfl
    · simp [Network.close]

section Shut
variable (h : Sealed t d)
include h

theorem sealed_handleFailover (failed : Handle) (op : Option Operation) :
    (handleFailover failed op).Ensures (sealing.rules duty) (fun _ => Sealed) t d := by
  refine sealed_read h fun _ t h => ?_
  rw [h.2.current]
  exact h

theorem sealed_switchSingle (readOnly : Bool) :
    (switchSingle readOnly).Ensures (sealing.rules duty) (fun _ => Sealed) t d := by
  refine sealed_read h fun _ t h => ?_
  rw [h.2.primary]
  refine ensures_idle ?_ h
  refine idle_read.bind fun busy => ?_
  split
  · trivial
  · exact Steps.thenOk (r := onSome none _) trivial fun _ =>
      (idle_setReadOnly readOnly).bind fun _ => trivial

theorem sealed_moveToPrimary {s : Session} (hs : s.primary = none)
    (hauto : d.session.options.autoReconnect = false) :
    (moveToPrimary s).Ensures (sealing.rules duty) (fun _ => Sealed) t d := by
  have hawait : awaitPrimary.Ensures (sealing.rules duty) (fun _ => Sealed) t d := by
    refine sealed_read h fun _ t h => ?_
    rw [hauto]
    exact ensures_idle ((idle_armRetry retryPeriod).bind fun _ => trivial) h
  unfold moveToPrimary
  rw [hs]
  split
  · exact h
  · rename_i hp
    cases hp
  · exact hawait

theorem sealed_moveToSecondary {s : Session} (hs : s.secondary = none) :
    (moveToSecondary s).Ensures (sealing.rules duty) (fun _ => Sealed) t d := by
  unfold moveToSecondary
  rw [hs]
  split
  · rename_i hx
    cases hx
  · exact h

theorem sealed_switchReadOnly (readOnly : Bool) (hstay : d.session.policy = .replicated →
      readOnly = false → d.session.options.autoReconnect = false) :
    (switchReadOnly readOnly).Ensures (sealing.rules duty) (fun _ => Sealed) t d := by
  refine sealed_read h fun _ t h => ?_
  split
  · exact sealed_switchSingle h readOnly
  · rename_i hp
    refine sealed_read h fun _ t h => ?_
    split
    · exact h
    · refine sealed_read h fun _ t h => ?_
      split
      · exact h
      · refine ensures_bind.2 (ensures_change.2 fun now => ?_)
        have hi := (idle_setReadOnly readOnly now d).1
        refine ⟨hi.permitted, ?_⟩
        split
        · exact sealed_moveToSecondary (h.idle hi) h.2.secondary
        · rename_i hwrite
          exact sealed_moveToPrimary (h.idle hi) h.2.primary (hstay hp (by simpa using hwrite))

theorem sealed_retryRound : retryRound.Ensures (sealing.rules duty) (fun _ => Sealed) t d := by
  refine sealed_read h fun _ t h => ?_
  rw [h.2.closed]
  exact ensures_idle idle_stopRetry h

theorem sealed_pingRound : pingRound.Ensures (sealing.rules duty) (fun _ => Sealed) t d := by
  refine sealed_read h fun _ t h => ?_
  rw [h.2.closed]
  exact h

theorem sealed_reconnectIfDue :
    reconnectIfDue.Ensures (sealing.rules duty) (fun _ => Sealed) t d := by
  refine sealed_read h fun _ t h => sealed_read h fun _ t h => ?_
  rw [h.2.closed]
  exact h

end Shut

theorem execute_shut {op : Operation} {y : Except Error QueryResult} {t' : List (Change Desk)}
    (h : d.Shut) (hplay : (execute op).Plays SameCoreDials t d y t' d') :
    y = .error .noPrimaryAvailable := by
  obtain ⟨_, t₁, d₁, hprepare, hplay⟩ := plays_bind.1 hplay
  have hsteps : (prepare op).Ensures (anything SameCoreDials) (fun _ _ => Shut) t d :=
    (side_prepare Network.suffices_keeps op).ensures (fun _ _ _ _ h ha => ha.shut h)
      (fun _ _ _ _ h hs => ⟨trivial, hs.sameCoreDials.shut h⟩) h
  have h₁ := hsteps.plays hprepare
  obtain ⟨s, t₂, d₂, hread, hplay⟩ := plays_bind.1 hplay
  obtain ⟨now, rfl, rfl, rfl⟩ := plays_read.1 hread
  rw [h₁.current] at hplay
  exact (plays_pure.1 hplay).1

theorem abides_sealing {body : Act α} {Q : α → Desk → Prop} (hduty : duty ≠ .request .close)
    (hmoves : body.Steps (Move (fun _ => True) fun _ => True))
    (hshut : ∀ t d, Sealed t d → ¬duty.reopens d.session →
      body.Ensures (sealing.rules duty) (fun _ => Sealed) t d)
    (hq : ∀ t d, body.Ensures (anything SameCoreDials) (fun a _ => Q a) t d) :
    (locked () body).Abides sealing duty (fun a _ => Q a) false t d := by
  refine abides_locked fun t' d' _ h => ?_
  have hbody : body.Ensures (sealing.rules duty) (fun _ => sealing.inOrder) t' d' := by
    by_cases hd : d'.session.Filled ∨ d'.session.closed = true ∧ duty.reopens d'.session
    · exact ensures_moves hmoves h hd
    · obtain ⟨hempty, hstay⟩ := not_or.1 hd
      have hc : d'.session.closed = true := by
        by_contra ho
        exact hempty (h.1 (by simpa using ho))
      have hs : d'.Shut := by
        simp only [Session.Filled, not_or, Option.not_isSome_iff_eq_none] at hempty
        exact ⟨hc, hempty.1, hempty.2⟩
      exact (hshut t' d' ⟨h, hs⟩ fun hr => hstay ⟨hc, hr⟩).mono fun _ _ _ h => h.1
  exact (hbody.and (hq t' d')).mono fun _ _ _ h => ⟨⟨h.1, fun he => (hduty he).elim⟩, h.2⟩

theorem abides_sealed {body : Act α} (hduty : duty ≠ .request .close)
    (hmoves : body.Steps (Move (fun _ => True) fun _ => True))
    (hshut : ∀ t d, Sealed t d → ¬duty.reopens d.session →
      body.Ensures (sealing.rules duty) (fun _ => Sealed) t d) :
    (locked () body).Abides sealing duty (fun _ _ _ => True) false t d :=
  abides_sealing (Q := fun _ _ => True) hduty hmoves hshut fun _ _ => ensures_anything hmoves

/-- Once it is closed a session has stopped its loops, and then lets go of its connections. -/
theorem sealed_close : close.Abides sealing (.request .close) (fun _ _ _ => True) false t d := by
  have hbody (t : List (Change Desk)) (d : Desk) (h : sealing.inOrder t d) (hh : d.Halted) :
      emptySlots.Ensures (sealing.rules (.request .close))
        (fun _ t d => sealing.inOrder t d ∧ d.Shut ∧ d.Halted) t d := by
    refine ensures_bind.2 (ensures_read.2 fun now => ⟨(Idle.refl d).permitted, ?_⟩)
    have h : sealing.inOrder (⟨true, now, d, d⟩ :: t) d := inOrder_cons h id id id
    refine ensures_bind.2 (ensures_change.2 fun now => ?_)
    have hclosed := hh.closed
    have hhalted : Halted ⟨{ d.session with primary := none, secondary := none }, d.network⟩ :=
      ⟨hh.closed, hh.retryLoop, hh.pingLoop⟩
    have hshut : Shut ⟨{ d.session with primary := none, secondary := none }, d.network⟩ :=
      ⟨hh.closed, rfl, rfl⟩
    refine ⟨⟨⟨rfl, rfl, id, fun _ => hhalted⟩, fun _ _ => ⟨hshut, rfl, rfl⟩⟩, ?_⟩
    have hclose : (do
        d.session.primary.forM closeIfOpen
        d.session.secondary.forM closeIfOpen : Act Unit).Steps Idle :=
      (steps_forM idle_closeIfOpen).bind fun _ => steps_forM idle_closeIfOpen
    refine ((ensures_idle hclose ⟨⟨fun ho => ?_, fun _ => hhalted⟩, hshut⟩).and
      (ensures_halted hclose hhalted)).mono fun _ _ _ hd => ⟨hd.1.1, hd.1.2, hd.2⟩
    rw [show d.session.closed = false from ho] at hclosed
    cases hclosed
  have hclosing (d : Desk) : SameCoreDials d ⟨{ d.session with closed := true }, d.network⟩ :=
    ⟨rfl, rfl, fun _ => rfl, fun hh => ⟨rfl, hh.retryLoop, hh.pingLoop⟩⟩
  refine Abides.bind (Q := fun _ _ d => d.session.closed = true)
    (fun now => ⟨hclosing d, rfl, rfl⟩) fun first t d hc => ?_
  split
  · have hcancel (now : Nat) : SameCoreDials d ⟨d.session.cancelLoops now, d.network⟩ :=
      ⟨rfl, rfl, id, fun hh => halted_cancelLoops now _ hh.closed⟩
    refine Abides.bind (Q := fun _ t _ => ∃ e ∈ t, e.after.Halted) (abides_change fun now =>
      ⟨hcancel now, _, List.mem_cons_self, halted_cancelLoops now _ hc⟩) fun _ t d hd => ?_
    obtain ⟨e, he, hh⟩ := hd
    -- Others may have held the lock meanwhile, but none of them starts a loop that was stopped for
    -- good.
    refine abides_locked fun t' d' ht h => ?_
    refine (hbody t' d' h (h.2 ⟨e, ht.mem he, hh⟩)).mono fun _ t d hd => ?_
    exact ⟨⟨hd.1, fun _ => hd.2⟩, trivial⟩
  · exact ⟨rfl, trivial⟩

end Act

theorem admits_sealing : sealing.Admits where
  side _ _ h := h.sameCoreDials
  failover _ failed op _ _ hr :=
    Act.abides_sealed hr.not_close (Act.moves_handleFailover failed op) fun _ _ h _ =>
      Act.sealed_handleFailover h failed op
  switch readOnly _ _ :=
    Act.abides_sealed (by nofun) (Act.moves_switchReadOnly readOnly) fun t d h hn =>
      Act.sealed_switchReadOnly h readOnly fun hp hw => by
        subst hw
        by_contra hauto
        exact hn ⟨hp, by simpa using hauto⟩
  reconnect _ _ := Act.abides_sealed (by nofun) Act.moves_reconnect fun _ _ _ hn => (hn trivial).elim
  close _ _ := Act.sealed_close
  background _ _ := Act.abides_sealed (by nofun) Act.moves_reconnectIfDue fun _ _ h _ =>
    Act.sealed_reconnectIfDue h
  retry _ _ _ _ := Act.abides_sealing (by nofun) Act.moves_retryRound
    (fun _ _ h _ => Act.sealed_retryRound h) fun _ _ => Act.stopped_retryRound
  ping _ _ _ _ := Act.abides_sealed (by nofun) Act.moves_pingRound fun _ _ h _ =>
    Act.sealed_pingRound h

namespace Office
variable {ς : Outsiders} {ask ask' : Request → Prop} {outside : Desk → Desk → Prop} {P : Duty → Prop}
  {t₀ t t' : List (Change Desk)} {o₀ o o' : Office}

abbrev Staffed (P : Duty → Prop) (o : Office) : Prop := o.Manned fun c _ => P c.duty

theorem Staffed.step (hrequest : ∀ r, ask r → P (.request r)) (herrand : ∀ e, P (.errand e))
    (h : o.Staffed P) (hs : Step ask outside o o') : o'.Staffed P :=
  Manned.step (fun _ _ _ _ hp hgo => hgo.duty ▸ hp) hrequest herrand h hs

/-- The session has been shut ever since. -/
structure Dormant (t : List (Change Desk)) (d : Desk) (t' : List (Change Desk)) (d' : Desk) :
    Prop where
  shut : d'.Shut
  topology : d'.session.topology = d.session.topology
  options : d'.session.options = d.session.options
  dials : d'.session.dials = d.session.dials
  acquired : ∀ x, Acquired t' x → Acquired t x

theorem Kept.sealed (hkept : o.Kept sealing t)
    (h : Chronicle ask (fun _ => False) SameCoreDials t o t' o') : o'.Kept sealing t' :=
  h.kept (fun _ _ ha => ha)
    (fun _ _ _ _ h ha => Act.inOrder_cons h ha.filled ha.closed ha.halted)
    (fun r _ => admits_sealing.request r) admits_sealing.errand (fun _ hc => hc.elim) hkept

theorem Founded.sealed (ho : o₀.Founded ς t₀) (hopen : o₀.desk.session.closed = false)
    (h : Chronicle ask (fun _ => False) SameCoreDials t₀ o₀ t o) : o.Kept sealing t := by
  refine (ho.begins admits_sealing ⟨fun _ => ?_, fun hd => ?_⟩).sealed h
  · obtain ⟨x, hx⟩ := (ho.started.well hopen rfl).serves
    unfold Session.current at hx
    split at hx
    · exact .inl (by simp [hx])
    · exact .inr (by simp [hx])
  · obtain ⟨e, he, hh⟩ := hd
    have hclosed := ho.started.shut ⟨e, he, hh.closed⟩
    rw [hopen] at hclosed
    cases hclosed

/-- Nobody gets a session that is shut to open a connection by anything else than a call that
reopens it. -/
theorem Kept.dormant (hkept : o.Kept sealing t) (hshut : o.desk.Shut)
    (hstaff : o.Staffed fun duty => ¬duty.reopens o.desk.session)
    (hask : ∀ r, ask r → ¬(Duty.request r).reopens o.desk.session)
    (h : Chronicle ask (fun _ => False) SameCoreDials t o t' o') : Dormant t o.desk t' o'.desk := by
  suffices hboth : Dormant t o.desk t' o'.desk ∧
      o'.Staffed fun duty => ¬duty.reopens o.desk.session from hboth.1
  induction h with
  | opened => exact ⟨⟨hshut, rfl, rfl, rfl, fun _ => id⟩, hstaff⟩
  | visit _ _ hc _ => exact hc.elim
  | @step t₁ t₂ o₁ o₂ h hs hr ih =>
    obtain ⟨hd, hstaff⟩ := ih
    refine ⟨?_, hstaff.step hask (fun e hn => hn) hs⟩
    rcases (hkept.sealed h).deed (fun _ _ ha => ha) hs hr with
      ⟨rfl, hsame⟩ | ⟨own, now, rfl, hdeed⟩
    · rw [hsame]
      exact hd
    · cases own with
      | true =>
        obtain ⟨c, hbusy, hpersists, hstays⟩ := hdeed
        have hduty : ¬c.duty.reopens o₁.desk.session := by
          rw [c.duty.reopens_congr hd.topology hd.options]
          exact hstaff.busy c true hbusy
        obtain ⟨hshut, hdials, hsize⟩ := hstays hd.shut hduty
        refine ⟨hshut, hpersists.topology.trans hd.topology, hpersists.options.trans hd.options,
          hdials.trans hd.dials, fun x hx => hd.acquired x ?_⟩
        exact (acquired_cons_of_size (fun _ => hsize) x).1 hx
      | false =>
        refine ⟨hdeed.shut hd.shut, (Session.topology_of_core hdeed.core).trans hd.topology,
          (Session.options_of_core hdeed.core).trans hd.options, hdeed.dials.trans hd.dials,
          fun x hx => hd.acquired x ?_⟩
        have hothers : Acquired (⟨false, now, o₁.desk, o₂.desk⟩ :: t₁) x ↔ Acquired t₁ x :=
          acquired_cons_of_size (by simp) x
        exact hothers.1 hx

theorem Kept.halted (hkept : o.Kept sealing t) (hhalted : o.desk.Halted)
    (h : Chronicle ask (fun _ => False) SameCoreDials t o t' o') : o'.desk.Halted := by
  induction h with
  | opened => exact hhalted
  | visit _ _ hc _ => exact hc.elim
  | step h hs hr ih =>
    rcases (hkept.sealed h).deed (fun _ _ ha => ha) hs hr with
      ⟨-, hsame⟩ | ⟨own, now, -, hdeed⟩
    · rw [hsame]
      exact ih
    · cases own with
      | true =>
        obtain ⟨_, -, hpersists, -⟩ := hdeed
        exact hpersists.halted ih
      | false => exact hdeed.halted ih

/-- Once its closing has returned the loops of a session have stopped for good. It has no
connection, tries to open none and serves nobody, unless a call reopens it. -/
theorem closed_for_good (ho : o₀.Founded ς t₀) (hopen : o₀.desk.session.closed = false)
    (h : Chronicle ask (fun _ => False) SameCoreDials t₀ o₀ t o) (hclosing : o.closing = true)
    (h' : Chronicle ask' (fun _ => False) SameCoreDials t o t' o') :
    o'.desk.Halted ∧
    ((∀ c ∈ o.idle, ¬c.duty.reopens o.desk.session) →
      (∀ r, ask' r → ¬(Duty.request r).reopens o.desk.session) →
      o'.desk.Shut ∧ o'.desk.session.dials = o.desk.session.dials ∧
      (∀ x, Acquired t' x → Acquired t x) ∧
      ∀ op y t'' d'', (Act.execute op).Plays SameCoreDials t' o'.desk y t'' d'' →
        y = .error .noPrimaryAvailable) := by
  have hkept := ho.sealed hopen h
  obtain ⟨next, hbusy⟩ := busy_of_closing hclosing
  obtain ⟨-, -, hupon, -⟩ := hkept.busy _ true hbusy
  obtain ⟨hshut, hhalted⟩ := hupon rfl
  refine ⟨hkept.halted hhalted h', fun hidle hask => ?_⟩
  have hstaff : o.Staffed fun duty => ¬duty.reopens o.desk.session := by
    refine ⟨hidle, fun c holds hc => ?_, fun c hc => ?_⟩
    · rw [hbusy] at hc
      cases hc
      exact id
    · rw [hkept.alone _ hbusy] at hc
      cases hc
  have hd := hkept.dormant hshut hstaff hask h'
  exact ⟨hd.shut, hd.dials, hd.acquired, fun op y t'' d'' hplay => Act.execute_shut hd.shut hplay⟩

/-- A session is being closed that looks for failed roles of its own. -/
def leaving : Office := ((opened paired).serving .close).work 0 7

def parting : List (Change Desk) := ((opened paired).serving .close).log 0 7 (opening paired)

def departed : Office := ((leaving.work 0 2).serving (.switchReadOnly true)).work 0 20

/-- A session is closed and asked to be read-only, which it takes note of. -/
theorem closed_for_good_asked : ∃ t₀ t t' o₀ o o', o₀.Founded .everyone t₀ ∧
    o₀.desk.session.closed = false ∧
    Chronicle (fun _ => True) (fun _ => False) SameCoreDials t₀ o₀ t o ∧ o.closing = true ∧
    Chronicle (fun r => ¬(Duty.request r).reopens o.desk.session) (fun _ => False) SameCoreDials
      t o t' o' ∧
    (∀ c ∈ o.idle, ¬c.duty.reopens o.desk.session) ∧ o.desk.session.dials ≠ [] ∧
    o'.desk.session.outage.readOnlyRequested = true ∧ o'.desk.Halted ∧ o'.desk.Shut ∧
    o'.desk.session.dials = o.desk.session.dials := by
  have ho : (opened paired).Founded .everyone (opening paired) := founded_opened (by decide +kernel)
  have hopen : (opened paired).desk.session.closed = false := by decide +kernel
  have hrun : Chronicle (fun _ => True) (fun _ => False) SameCoreDials (opening paired) (opened paired)
      parting leaving := (Chronicle.opened.serve (r := .close) rfl trivial).work 0 7
  have hclosing : leaving.closing = true := by decide +kernel
  have hbusy : (leaving.work 0 2).busy = none := Option.isNone_iff_eq_none.1 (by decide +kernel)
  have hrest : Chronicle (fun r => ¬(Duty.request r).reopens leaving.desk.session) (fun _ => False)
      SameCoreDials parting leaving _ departed :=
    ((Chronicle.opened.work 0 2).serve (r := .switchReadOnly true) hbusy id).work 0 20
  have hidle : leaving.idle = [] := List.isEmpty_iff.1 (by decide +kernel)
  have hnobody : ∀ c ∈ leaving.idle, ¬c.duty.reopens leaving.desk.session := by
    rw [hidle]
    exact nofun
  obtain ⟨hhalted, hrest'⟩ := closed_for_good ho hopen hrun hclosing hrest
  obtain ⟨hshut, hdials, -, -⟩ := hrest' hnobody fun _ => id
  exact ⟨_, _, _, _, leaving, departed, ho, hopen, hrun, hclosing, hrest, hnobody,
    by decide +kernel, by decide +kernel, hhalted, hshut, hdials⟩

end Office

namespace Scenario

/-- A session is closed. Asked to reconnect it opens another connection, and serves. -/
theorem closed_session_serves :
    let closed := Stage.after (Setting.stage { hosts := Cluster.multiPrimaryHosts 1 })
      [.connect "s" .masterOnly none {}, .ask "s" .close]
    let reconnected := closed.after [.ask "s" .reconnect]
    let answered := reconnected.run (World.onSession 0 (Act.execute (.query "SELECT 1")))
    (closed.desk.session.closed = true ∧ closed.desk.session.primary = none ∧
      closed.desk.session.dials.length = 1 ∧ closed.machine.held = []) ∧
    (reconnected.desk.session.closed = true ∧ reconnected.desk.session.primary = some 1 ∧
      reconnected.desk.session.dials.length = 2) ∧
    answered.1 = .ok .empty := by
  decide +kernel

end Scenario
end Failover
