import Failover.Proofs.Office.Chronicle
import Failover.Proofs.Session.LockedStateKept
import Failover.Proofs.Session.Lawful
import Failover.Session.Routing

/-!
When a session is in order: it can serve, it serves where it should, every failed role is looked
for, and of the connections that it opened it has kept those in its slots and closed the others.
While the lock is held some of that may still be owed.
-/
namespace Failover
open Desk Routine

namespace Session
variable {s s' : Session}

def slot (s : Session) : Active → Option Handle
  | .primary => s.primary
  | .secondary => s.secondary

def failed (s : Session) : Active → Bool
  | .primary => s.outage.primaryFailed
  | .secondary => s.outage.secondaryFailed

theorem current_eq (s : Session) : s.current = s.slot s.active := rfl

/-- The session can serve, and knows which of its roles are missing. -/
structure Well (s : Session) : Prop where
  serves : ∃ h, s.current = some h
  vacant : s.policy = .replicated → ∀ a, s.slot a = none → s.failed a = true
  single : s.policy = .single →
    s.active = .primary ∧ s.secondary = none ∧ s.outage.secondaryFailed = false

/-- The replica serves where read-only was asked for or the primary is failed, and the primary
serves a session that was asked to be read-only only where the replica is failed. -/
structure Routed (s : Session) : Prop where
  secondary : s.active = .secondary →
    s.outage.readOnlyRequested = true ∨ s.outage.primaryFailed = true
  primary : s.active = .primary → s.outage.readOnlyRequested = true →
    s.outage.secondaryFailed = true

theorem Well.of_core (hc : s'.core = s.core) (h : Well s) : Well s' := by
  have hcore : Well s.core := ⟨h.serves, h.vacant, h.single⟩
  rw [← hc] at hcore
  exact ⟨hcore.serves, hcore.vacant, hcore.single⟩

theorem Routed.of_core (hc : s'.core = s.core) (h : Routed s) : Routed s' := by
  have hcore : Routed s.core := ⟨h.secondary, h.primary⟩
  rw [← hc] at hcore
  exact ⟨hcore.secondary, hcore.primary⟩

theorem routed_secondary (hf : s.failed .primary = true) :
    ({ s with active := .secondary } : Session).Routed := by
  refine ⟨fun _ => .inr hf, fun ha => ?_⟩
  cases ha

theorem routed_primary (hf : s.failed .secondary = true) :
    ({ s with active := .primary } : Session).Routed := by
  refine ⟨fun ha => ?_, fun _ _ => hf⟩
  cases ha

theorem slot_of_core (hc : s'.core = s.core) : s'.slot = s.slot :=
  of_core slot (fun _ => rfl) hc

theorem failed_of_core (hc : s'.core = s.core) : s'.failed = s.failed :=
  of_core failed (fun _ => rfl) hc

theorem active_of_core (hc : s'.core = s.core) : s'.active = s.active :=
  of_core active (fun _ => rfl) hc

theorem readOnlyRequested_of_core (hc : s'.core = s.core) :
    s'.outage.readOnlyRequested = s.outage.readOnlyRequested :=
  of_core (·.outage.readOnlyRequested) (fun _ => rfl) hc

theorem exhausted_of_core (hc : s'.core = s.core) : s'.exhausted = s.exhausted :=
  of_core exhausted (fun _ => rfl) hc

end Session

/-- What is not the session's own doing: whether connections are handed in, and which connections
others may close. -/
structure Outsiders where
  handsIn : Prop
  others : Handle → Prop

/-- What may happen to a session without its lock. -/
structure Desk.OutsideLock (ς : Outsiders) (d d' : Desk) : Prop where
  core : d'.session.core = d.session.core
  closed : d.session.closed = true → d'.session.closed = true
  armed : d'.session.closed = false → 0 < d'.session.users →
    d.session.retryLoop.armed = true → d'.session.retryLoop.armed = true
  grows : d.network.Grows d'.network
  spared : ¬ς.handsIn → ∀ h, ¬ς.others h → h < d.network.connections.size →
    (d'.network.connection h).closed = (d.network.connection h).closed

theorem Desk.Harmless.outsideLock {ς : Outsiders} {d d' : Desk} (h : Harmless d d') :
    OutsideLock ς d d' :=
  ⟨h.core, fun hc => h.closed.trans hc, fun _ _ ha => by rw [h.retryLoop, ha],
    Nat.le_of_eq h.keeps.size.symm, fun _ x _ _ => h.keeps.closed x⟩

theorem Desk.OutsideLock.opened {ς : Outsiders} {d d' : Desk} (h : OutsideLock ς d d')
    (hc : d'.session.closed = false) : d.session.closed = false := by
  by_contra hd
  have hclosed := h.closed (by simpa using hd)
  rw [hc] at hclosed
  cases hclosed

/-- The session itself has opened the connection. -/
def Acquired (t : List (Change Desk)) (h : Handle) : Prop :=
  ∃ e ∈ t, e.own = true ∧ e.before.network.connections.size ≤ h ∧
    h < e.after.network.connections.size

theorem acquired_cons {e : Change Desk} {t : List (Change Desk)} {h : Handle} :
    Acquired (e :: t) h ↔ (e.own = true ∧ e.before.network.connections.size ≤ h ∧
      h < e.after.network.connections.size) ∨ Acquired t h := by
  simp [Acquired]

theorem Acquired.cons {t : List (Change Desk)} {h : Handle} (ha : Acquired t h) (e : Change Desk) :
    Acquired (e :: t) h :=
  acquired_cons.2 (.inr ha)

def Desk.InUse (d : Desk) : Prop := 0 < d.session.users

/-- The role has been failed, with nobody looking for it, since a moment at which the budget was
spent. -/
def GivenUp (a : Active) (t : List (Change Desk)) (d : Desk) : Prop :=
  ∃ later earlier, t = later ++ earlier ∧ (first later d).session.exhausted = true ∧
    Throughout (fun d => d.session.failed a = true ∧ d.session.retryLoop.armed = false) later d

def Watched (a : Active) (t : List (Change Desk)) (d : Desk) : Prop :=
  d.session.failed a = true → d.session.retryLoop.armed = true ∨ GivenUp a t d

/-- A read-only switch has ended with another error than those it may refuse with. -/
def Botched (ς : Outsiders) (t : List (Change Desk)) : Prop :=
  ∃ readOnly t₁ d₁ e t₂ d₂, d₁.session.policy = .replicated ∧
    (Act.switchReadOnly readOnly).Plays (OutsideLock ς) t₁ d₁ (.error e) t₂ d₂ ∧
    e ≠ .inTransaction ∧ e ≠ .noPrimaryAvailable ∧ t₂ <:+ t

theorem Botched.cons {ς : Outsiders} {t : List (Change Desk)} (h : Botched ς t) (e : Change Desk) :
    Botched ς (e :: t) := by
  obtain ⟨readOnly, t₁, d₁, x, t₂, d₂, hp, hplay, hbusy, hnone, hsuffix⟩ := h
  exact ⟨readOnly, t₁, d₁, x, t₂, d₂, hp, hplay, hbusy, hnone,
    hsuffix.trans (List.suffix_cons e t)⟩

/-- The connections that the session opened and did not close are those in its slots, each in one,
and some that are loose. -/
structure Tidy (loose : List Handle) (t : List (Change Desk)) (d : Desk) : Prop where
  seated : ∀ a h, d.session.slot a = some h →
    Acquired t h ∧ (d.network.connection h).closed = false ∧ h ∉ loose
  kept : ∀ h, Acquired t h → (d.network.connection h).closed = false →
    (∃ a, d.session.slot a = some h) ∨ h ∈ loose
  distinct : ∀ a b h, d.session.slot a = some h → d.session.slot b = some h → a = b
  pending : ∀ h ∈ loose, Acquired t h ∧ (d.network.connection h).closed = false
  nodup : loose.Nodup

/-- What the holder of the lock may still owe: a session that can serve, one that serves where it
should, and failed roles that are looked for. -/
structure Debt where
  unready : Bool := false
  misrouted : Bool := false
  unwatched : Active → Bool := fun _ => false

/-- A session is in order but for what is owed and for loose connections. -/
structure Order (ς : Outsiders) (loose : List Handle) (debt : Debt) (t : List (Change Desk))
    (d : Desk) : Prop where
  shut : (∃ e ∈ t, e.after.session.closed = true) → d.session.closed = true
  known : ∀ h, Acquired t h → h < d.network.connections.size
  well : d.session.closed = false → debt.unready = false → d.session.Well
  routed : d.session.closed = false → debt.misrouted = false →
    d.session.policy = .replicated → Botched ς t ∨ d.session.Routed
  watched : d.session.closed = false → Throughout InUse t d →
    ∀ a, debt.unwatched a = false → Watched a t d
  tidy : ¬ς.handsIn → (∀ h, Acquired t h → ¬ς.others h) → Tidy loose t d

/-- What the holder of the lock may do to an open session. It never stops serving, and with one
writer the count of attempts to find one is not spoilt. -/
structure Fair (s s' : Session) : Prop where
  topology : s'.topology = s.topology
  options : s'.options = s.options
  well : s.Well → s'.Well
  counts : s.Well → s.policy = .single → s.failed .primary = true → s'.failed .primary = true →
    s'.outage.attempts = s.outage.attempts ∨ s'.outage.attempts = s.outage.attempts + 1

def watch (ς : Outsiders) : Rules Desk :=
  ⟨OutsideLock ς, fun _ e => e.after.session.closed = false →
    e.before.session.closed = false ∧ Fair e.before.session e.after.session⟩

section Steps
variable {ς : Outsiders} {loose : List Handle} {debt debt' : Debt} {t : List (Change Desk)}
  {d d' : Desk} {own : Bool} {now : Nat} {a : Active}

theorem Fair.of_core {s s' : Session} (hc : s'.core = s.core) : Fair s s' :=
  ⟨Session.topology_of_core hc, Session.options_of_core hc,
    Session.Well.of_core hc,
    fun _ _ _ _ => .inl (Session.of_core (·.outage.attempts) (fun _ => rfl) hc)⟩

theorem Fair.congr {r r' s s' : Session} (h : Fair s s') (hc : r.core = s.core)
    (hc' : r'.core = s'.core) : Fair r r' := by
  have hattempts {r s : Session} (hc : r.core = s.core) : r.outage.attempts = s.outage.attempts :=
    Session.of_core (·.outage.attempts) (fun _ => rfl) hc
  refine ⟨?_, ?_, fun hw => (h.well (hw.of_core hc.symm)).of_core hc', fun hw hp hf hf' => ?_⟩
  · rw [Session.topology_of_core hc', h.topology, Session.topology_of_core hc]
  · rw [Session.options_of_core hc', h.options, Session.options_of_core hc]
  · rw [Session.policy_of_core hc] at hp
    rw [Session.failed_of_core hc] at hf
    rw [Session.failed_of_core hc'] at hf'
    rw [hattempts hc, hattempts hc']
    exact h.counts (hw.of_core hc.symm) hp hf hf'

theorem watched_of_exhausted (hspent : d.session.exhausted = true)
    (harmed : d.session.retryLoop.armed = false) : Watched a t d :=
  fun hf => .inr ⟨[], t, rfl, by rwa [first], ⟨hf, harmed⟩, by simp⟩

theorem Watched.cons (h : Watched a t d)
    (hfailed : d'.session.failed a = true → d.session.failed a = true)
    (harmed : d.session.retryLoop.armed = true → d'.session.retryLoop.armed = true) :
    Watched a (⟨own, now, d, d'⟩ :: t) d' := by
  intro hf
  by_cases ha : d'.session.retryLoop.armed = true
  · exact .inl ha
  · rcases h (hfailed hf) with hd | ⟨later, earlier, rfl, hspent, ht⟩
    · exact (ha (harmed hd)).elim
    · refine .inr ⟨⟨own, now, d, d'⟩ :: later, earlier, rfl, hspent, ?_⟩
      exact throughout_cons.2 ⟨⟨hf, Bool.eq_false_iff.2 ha⟩, ht⟩

theorem Tidy.congr {loose : List Handle} (h : Tidy loose t d)
    (hslot : d'.session.slot = d.session.slot)
    (hacquired : ∀ x, Acquired (⟨own, now, d, d'⟩ :: t) x ↔ Acquired t x)
    (hclosed : ∀ x, Acquired t x →
      (d'.network.connection x).closed = (d.network.connection x).closed) :
    Tidy loose (⟨own, now, d, d'⟩ :: t) d' := by
  refine ⟨fun b x hx => ?_, fun x hx ho => ?_, fun b c x hb hc => ?_, fun x hx => ?_, h.nodup⟩
  · rw [hslot] at hx
    obtain ⟨hm, ho, hn⟩ := h.seated b x hx
    exact ⟨(hacquired x).2 hm, (hclosed x hm).trans ho, hn⟩
  · have hm := (hacquired x).1 hx
    rw [hslot]
    exact h.kept x hm ((hclosed x hm).symm.trans ho)
  · rw [hslot] at hb hc
    exact h.distinct b c x hb hc
  · obtain ⟨hm, ho⟩ := h.pending x hx
    exact ⟨(hacquired x).2 hm, (hclosed x hm).trans ho⟩

theorem acquired_cons_of_size (h : own = true →
      d'.network.connections.size = d.network.connections.size) (x : Handle) :
    Acquired (⟨own, now, d, d'⟩ :: t) x ↔ Acquired t x := by
  refine acquired_cons.trans (or_iff_right ?_)
  intro hd
  obtain ⟨ho, hle, hlt⟩ := hd
  dsimp only at hle hlt
  rw [h ho] at hlt
  exact Nat.not_lt.2 hle hlt

/-- Order outlasts what happens without the lock, and what opens and closes nothing. -/
theorem Order.pass (h : Order ς loose debt t d) (ha : OutsideLock ς d d')
    (hown : own = true → d'.network.connections.size = d.network.connections.size) :
    Order ς loose debt (⟨own, now, d, d'⟩ :: t) d' := by
  have hopen := ha.opened
  have hacquired (x : Handle) : Acquired (⟨own, now, d, d'⟩ :: t) x ↔ Acquired t x :=
    acquired_cons_of_size hown x
  refine ⟨?_, fun x hx => ?_, fun hc hd => (h.well (hopen hc) hd).of_core ha.core,
    fun hc hd hp => ?_, fun hc ht b hb => ?_, fun hn hx => ?_⟩
  · rintro ⟨e, he, hc⟩
    rcases List.mem_cons.1 he with rfl | he
    · exact hc
    · exact ha.closed (h.shut ⟨e, he, hc⟩)
  · exact Nat.lt_of_lt_of_le (h.known x ((hacquired x).1 hx)) ha.grows
  · rw [Session.policy_of_core ha.core] at hp
    exact (h.routed (hopen hc) hd hp).imp (·.cons _) (·.of_core ha.core)
  · obtain ⟨hu, ht⟩ := throughout_cons.1 ht
    refine (h.watched (hopen hc) ht b hb).cons ?_ (ha.armed hc hu)
    rw [Session.failed_of_core ha.core]
    exact id
  · have hspared (x : Handle) (hm : Acquired t x) : ¬ς.others x := hx x (hm.cons _)
    exact (h.tidy hn hspared).congr (Session.slot_of_core ha.core) hacquired
      fun x hm => ha.spared hn x (hspared x hm) (h.known x hm)

theorem Order.alter {loose' : List Handle} (h : Order ς loose debt t d)
    (hclosed : d'.session.closed = d.session.closed)
    (hknown : ∀ x, Acquired (⟨true, now, d, d'⟩ :: t) x → x < d'.network.connections.size)
    (hwell : d'.session.closed = false → debt'.unready = false → d'.session.Well)
    (hrouted : d'.session.closed = false → debt'.misrouted = false →
      d'.session.policy = .replicated → Botched ς t ∨ d'.session.Routed)
    (hwatched : d'.session.closed = false → Throughout InUse t d → ∀ a,
      debt'.unwatched a = false → Watched a (⟨true, now, d, d'⟩ :: t) d')
    (htidy : Tidy loose t d → Tidy loose' (⟨true, now, d, d'⟩ :: t) d') :
    Order ς loose' debt' (⟨true, now, d, d'⟩ :: t) d' := by
  refine ⟨?_, hknown, hwell, fun hc hd hp => (hrouted hc hd hp).imp_left (·.cons _),
    fun hc ht => hwatched hc (throughout_cons.1 ht).2,
    fun hn hx => htidy (h.tidy hn fun x hm => hx x (hm.cons _))⟩
  rintro ⟨e, he, hc⟩
  rcases List.mem_cons.1 he with rfl | he
  · exact hc
  · exact hclosed.trans (h.shut ⟨e, he, hc⟩)

theorem Order.amend {s : Session} {loose' : List Handle} (h : Order ς loose debt t d)
    (hclosed : s.closed = d.session.closed)
    (hwell : s.closed = false → debt'.unready = false → s.Well)
    (hrouted : s.closed = false → debt'.misrouted = false → s.policy = .replicated →
      Botched ς t ∨ s.Routed)
    (hwatched : s.closed = false → Throughout InUse t d → ∀ a, debt'.unwatched a = false →
      Watched a (⟨true, now, d, ⟨s, d.network⟩⟩ :: t) ⟨s, d.network⟩)
    (htidy : Tidy loose t d → Tidy loose' (⟨true, now, d, ⟨s, d.network⟩⟩ :: t) ⟨s, d.network⟩) :
    Order ς loose' debt' (⟨true, now, d, ⟨s, d.network⟩⟩ :: t) ⟨s, d.network⟩ :=
  h.alter hclosed (fun x hx => h.known x ((acquired_cons_of_size (fun _ => by rfl) x).1 hx)) hwell
    hrouted hwatched htidy

theorem Order.alterNetwork {n : Network} {loose' : List Handle} (h : Order ς loose debt t d)
    (hknown : ∀ x, Acquired (⟨true, now, d, ⟨d.session, n⟩⟩ :: t) x → x < n.connections.size)
    (htidy : Tidy loose t d → Tidy loose' (⟨true, now, d, ⟨d.session, n⟩⟩ :: t) ⟨d.session, n⟩) :
    Order ς loose' debt (⟨true, now, d, ⟨d.session, n⟩⟩ :: t) ⟨d.session, n⟩ :=
  h.alter rfl hknown h.well h.routed (fun hc ht a ha => (h.watched hc ht a ha).cons id id) htidy

end Steps
end Failover
