import Failover.Proofs.Session.SlotTaking

/-!
A search under a session's lock. Whatever it hands over takes its slot, and what ties the session to
the roles that are still needed is kept to the end.
-/
namespace Failover
open Desk Routine

namespace Session
variable {s s' s₀ : Session} {needs : Needs} {role : Role} {x : Handle}

def Takes (role : Role) (x : Handle) (s s' : Session) : Prop :=
  (s.policy = .single ∧ role.slot = .secondary ∧ s' = s) ∨ Seats role.slot x s s'

/-- A tie between the roles that are still needed and the session is kept when a connection that
serves one of them is handed over. -/
def Kept (tie : Needs → Session → Prop) : Prop :=
  ∀ ⦃needs role x s s'⦄, tie needs s → needs.wants role = true → Takes role x s s' →
    tie (needs.clear role) s'

/-- In a search that began with a session like the first, every failed role is still needed. -/
structure Sought (s₀ : Session) (needs : Needs) (s : Session) : Prop where
  topology : s.topology = s₀.topology
  options : s.options = s₀.options
  readOnly : s.outage.readOnlyRequested = s₀.outage.readOnlyRequested
  primary : s.failed .primary = true → needs.primary = true
  secondary : s.policy = .replicated → s.failed .secondary = true → needs.replica = true

theorem kept_sought (s₀ : Session) : Kept (Sought s₀) := by
  intro needs role x s s' h hw ht
  rcases ht with ⟨hp, hslot, rfl⟩ | hseats
  · cases role with
    | primary => cases hslot
    | replica =>
      refine ⟨h.topology, h.options, h.readOnly, h.primary, fun hp' => ?_⟩
      rw [hp] at hp'
      cases hp'
    | unset => cases hw
  · have htopology := hseats.topology.trans h.topology
    have hoptions := hseats.options.trans h.options
    have hreadOnly := hseats.readOnly.trans h.readOnly
    cases role with
    | primary =>
      refine ⟨htopology, hoptions, hreadOnly, fun hf => ?_, fun hp hf => ?_⟩
      · rw [hseats.failed] at hf
        cases hf
      · rw [hseats.failed] at hf
        exact h.secondary (hseats.policy.symm.trans hp) hf
    | replica =>
      refine ⟨htopology, hoptions, hreadOnly, fun hf => ?_, fun _ hf => ?_⟩
      · rw [hseats.failed] at hf
        exact h.primary hf
      · rw [hseats.failed] at hf
        cases hf
    | unset => cases hw

end Session

namespace Act
variable {ς : Outsiders} {s : Session} {debt : Debt} {tie : Needs → Session → Prop}
  {needs : Needs} {t : List (Change Desk)} {d : Desk} {x : Handle} {loose : List Handle}

section Found

theorem orderly_foundPrimarySingle (h : Held ς s [x] debt t d) (hp : s.policy = .single) :
    (foundPrimarySingle x).Ensures (watch ς) (fun _ => Seated ς .primary x s debt) t d := by
  refine orderly_session h fun t h' => ?_
  have hp' : d.session.policy = .single := (Session.policy_of_core h.core).trans hp
  have hseats : Session.Seats .primary x d.session { d.session with
      primary := some x, active := .primary, outage := d.session.outage.resetPrimary } := by
    refine ⟨rfl, rfl, rfl, fun b => ?_, fun b => ?_, ?_, fun _ => rfl⟩
    · cases b <;> rfl
    · cases b <;> rfl
    · simp [Session.moves, hp']
  have htake {t' : List (Change Desk)} {d' : Desk} (h' : Held ς d.session [x] debt t' d') : (do
      update fun s =>
        { s with primary := some x, active := .primary, outage := s.outage.resetPrimary }
      retire d.session.primary x : Act Unit).Ensures (watch ς)
      (fun _ => Seated ς .primary x s debt) t' d' :=
    orderly_takeSlot (a := .primary) (fun _ => rfl) (fun _ => rfl) (fun _ => rfl) h.core h' hseats
  refine (orderly_harmless (steps_forM fun c => harmless_trySync c x) h').bind fun _ t d' h' => ?_
  dsimp only
  split
  · refine (orderly_harmless ?_ h').bind fun _ t d' h' => ?_
    · exact harmless_onNetwork (Calls.keeps_settings (fun _ _ => by rfl) x)
    · have htold := harmless_onNetwork (Carryover.keeps_setReadOnly x true)
      exact (orderly_harmless htold.discard h').bind fun _ t d' h' => htake h'
  · exact htake h'

theorem orderly_takeOver {a : Active} {f : Session → Session} {r : Session} (moves : Bool)
    (left : Option Handle) (hf : Session.Central f) (hclosed : ∀ s, (f s).closed = s.closed)
    (hloop : ∀ s, (f s).retryLoop = s.retryLoop) (hr : r.core = s.core)
    (h : Held ς r [x] debt t d) (hseats : Session.Seats a x r (f r)) : (do
      if moves then left.forM fun c => trySync c x
      update f
      retire (r.slot a) x : Act Unit).Ensures (watch ς) (fun _ => Seated ς a x s debt) t d := by
  refine ensures_when (fun _ => ?_) (fun _ => h) fun t' d' h => ?_
  · exact orderly_harmless (steps_forM fun c => harmless_trySync c x) h
  · exact orderly_takeSlot hf hclosed hloop hr h hseats

theorem orderly_foundPrimaryReplicated (h : Held ς s [x] debt t d) (hp : s.policy = .replicated) :
    (foundPrimaryReplicated x).Ensures (watch ς) (fun _ => Seated ς .primary x s debt) t d := by
  refine orderly_session h fun t h' => ?_
  have hp' : d.session.policy = .replicated := (Session.policy_of_core h.core).trans hp
  have hseats : Session.Seats .primary x d.session { d.session with
      primary := some x
      active := if !d.session.outage.readOnlyRequested then .primary else d.session.active
      outage := d.session.outage.resetPrimary } := by
    refine ⟨rfl, rfl, rfl, fun b => ?_, fun b => ?_, ?_, fun _ => rfl⟩
    · cases b <;> rfl
    · cases b <;> rfl
    · simp [Session.moves, hp']
  exact orderly_takeOver (a := .primary) (f := fun s => { s with
      primary := some x
      active := if !d.session.outage.readOnlyRequested then .primary else s.active
      outage := s.outage.resetPrimary })
    _ d.session.current (fun _ => rfl) (fun _ => rfl) (fun _ => rfl) h.core h' hseats

theorem orderly_foundReplicaReplicated (h : Held ς s [x] debt t d) (hp : s.policy = .replicated) :
    (foundReplicaReplicated x).Ensures (watch ς) (fun _ => Seated ς .secondary x s debt) t d := by
  refine orderly_session h fun t h' => ?_
  have hp' : d.session.policy = .replicated := (Session.policy_of_core h.core).trans hp
  have hseats : Session.Seats .secondary x d.session { d.session with
      secondary := some x
      active := if d.session.outage.readOnlyRequested || d.session.outage.primaryFailed then
        .secondary else d.session.active
      outage := d.session.outage.resetSecondary } := by
    refine ⟨rfl, rfl, rfl, fun b => ?_, fun b => ?_, ?_, fun hs => ?_⟩
    · cases b <;> rfl
    · cases b <;> rfl
    · simp [Session.moves]
    · rw [hp'] at hs
      cases hs
  exact orderly_takeOver (a := .secondary) (f := fun s => { s with
      secondary := some x
      active := if d.session.outage.readOnlyRequested || d.session.outage.primaryFailed then
        .secondary else s.active
      outage := s.outage.resetSecondary })
    _ d.session.current (fun _ => rfl) (fun _ => rfl) (fun _ => rfl) h.core h' hseats

/-- Whoever hands over a connection, it takes its slot or is closed. -/
theorem orderly_found (role : Role) (h : Held ς s [x] debt t d) :
    (found role x).Ensures (watch ς)
      (fun _ t d => ∃ s', Session.Takes role x s s' ∧ Held ς s' [] debt t d) t d := by
  have hpolicy {p : Policy} (hp : d.session.policy = p) : s.policy = p :=
    (Session.policy_of_core h.core).symm.trans hp
  have htaken {a : Active} (ha : role.slot = a) (_ : Unit) (t : List (Change Desk)) (d : Desk)
      (hseated : Seated ς a x s debt t d) :
      ∃ s', Session.Takes role x s s' ∧ Held ς s' [] debt t d := by
    subst ha
    obtain ⟨s', hseats, h'⟩ := hseated
    exact ⟨s', .inr hseats, h'⟩
  have hprimary (hr : role.slot = .primary) : (foundPrimary x).Ensures (watch ς)
      (fun _ t d => ∃ s', Session.Takes role x s s' ∧ Held ς s' [] debt t d) t d := by
    refine orderly_session h fun t h' => ?_
    have h' := h'.congr h.core
    split <;> rename_i hp
    · exact (orderly_foundPrimarySingle h' (hpolicy hp)).mono (htaken hr)
    · exact (orderly_foundPrimaryReplicated h' (hpolicy hp)).mono (htaken hr)
  have hreplica (hr : role.slot = .secondary) : (foundReplica x).Ensures (watch ς)
      (fun _ t d => ∃ s', Session.Takes role x s s' ∧ Held ς s' [] debt t d) t d := by
    refine orderly_session h fun t h' => ?_
    have h' := h'.congr h.core
    split <;> rename_i hp
    · exact (orderly_close h').mono fun _ _ _ h' => ⟨s, .inl ⟨hpolicy hp, hr, rfl⟩, h'⟩
    · exact (orderly_foundReplicaReplicated h' (hpolicy hp)).mono (htaken hr)
  cases role with
  | primary => exact hprimary rfl
  | replica => exact hreplica rfl
  | unset => exact hreplica rfl

end Found

section Search

theorem orderly_probe (s₀ : Session) (host : Host) (h : Held ς s [] debt t d) :
    (Search.probe (prober s₀) needs host).Ensures (watch ς)
      (Search.Probed (Held ς s [] debt) fun role c t d =>
        needs.wants role = true ∧ Held ς s [c] debt t d) t d := by
  have hexclude : (onNetwork ((Search.prober s₀.topology.mode s₀.registry).exclude host)).Steps
      Harmless := by
    refine harmless_onNetwork (steps_change fun _ n => ?_)
    exact .of_eq (Network.connections_updateBlacklist ..)
  refine Ensures.bind (P := Dialled ς s [] debt) ?_ fun x t d hx => ?_
  · exact (orderly_harmless (harmless_note _) h).bind fun _ t d h => orderly_connect host h
  · cases x with
    | error e => exact (orderly_harmless hexclude hx).bind fun _ _ _ h => h
    | ok c =>
      refine (orderly_harmless (harmless_onNetwork (Calls.keeps_role _ c)) hx).bind
        fun y t d h => ?_
      cases y with
      | error e =>
        refine (orderly_harmless hexclude h).bind fun _ t d h => ?_
        exact (orderly_close h).bind fun _ _ _ h => h
      | ok role =>
        dsimp only
        split
        · rename_i hw
          exact ⟨hw, h⟩
        · exact (orderly_close h).bind fun _ _ _ h => h

/-- A search keeps the session in order, and every tie that what it finds does not break. -/
theorem orderly_search (htie : Session.Kept tie) (h : Held ς s [] debt t d) (hs : tie needs s) :
    (search needs).Ensures (watch ς)
      (fun o t d => ∃ s', tie o.needs s' ∧ Held ς s' [] debt t d) t d := by
  have hprune : (change fun now d => { d with
      network := d.network.updateBlacklist d.session.registry
        (·.prune now (millis d.session.options.blacklistTimeoutSec)) } : Act Unit).Steps Harmless :=
    steps_change fun _ _ => ⟨rfl, rfl, rfl, rfl, .of_eq (Network.connections_updateBlacklist ..)⟩
  refine (orderly_harmless (harmless_note _) h).bind fun _ t d h => ?_
  refine (orderly_harmless hprune h).bind fun _ t d h => ?_
  refine (orderly_harmless harmless_read h).bind fun s₀ t d h => ?_
  refine (orderly_harmless harmless_read h).bind fun b t d h => ?_
  refine Search.ensures_twoPass_of_needs
    (P := fun needs t d => ∃ s', tie needs s' ∧ Held ς s' [] debt t d) ?_ ?_ b _ needs ⟨s, hs, h⟩
  · intro size needs t d hd
    obtain ⟨s', hs, h⟩ := hd
    have hdraw : (onNetwork (transact fun _ n => n.draw size)).Steps Harmless :=
      harmless_onNetwork (steps_transact fun _ _ => .of_eq rfl)
    exact (orderly_harmless hdraw h).mono fun _ _ _ h => ⟨s', hs, h⟩
  · intro needs host t d hd
    obtain ⟨s', hs, h⟩ := hd
    refine (orderly_probe s₀ host h).mono fun x t d hx => ?_
    cases x with
    | none => exact ⟨s', hs, hx⟩
    | some hit =>
      obtain ⟨role, c⟩ := hit
      obtain ⟨hw, h⟩ := hx
      refine (orderly_found role h).mono fun _ t d hd => ?_
      obtain ⟨s'', htakes, h⟩ := hd
      exact ⟨s'', htie hs hw htakes, h⟩

/-- After a reconnection the session stands as before but for what was found, and if it succeeded no
role is failed any more. -/
structure Reconnected (s₀ s : Session) (x : Except Error Unit) : Prop where
  topology : s.topology = s₀.topology
  options : s.options = s₀.options
  readOnly : s.outage.readOnlyRequested = s₀.outage.readOnlyRequested
  primary : x = .ok () → s.failed .primary = false
  secondary : x = .ok () → s.policy = .replicated → s.failed .secondary = false

theorem Reconnected.none_failed {s₀ : Session} (hr : Reconnected s₀ s (.ok ()))
    (h : Held ς s loose debt t d) (hd : debt.unready = false) (hc : d.session.closed = false)
    (a : Active) : s.failed a = false := by
  cases a with
  | primary => exact hr.primary rfl
  | secondary =>
    cases hp : s.policy with
    | single => exact ((h.wellAt hc hd).single hp).2.2
    | replicated => exact hr.secondary rfl hp

theorem Reconnected.of_sought {s₀ : Session} {x : Except Error Unit}
    (h : Session.Sought s₀ needs s) (hx : x = .ok () → needs.satisfied = true) :
    Reconnected s₀ s x := by
  have hnone (hok : x = .ok ()) : needs.primary = false ∧ needs.replica = false := by
    simpa [Needs.satisfied] using hx hok
  refine ⟨h.topology, h.options, h.readOnly, fun hok => ?_, fun hok hp => ?_⟩
  · have hn := (hnone hok).1
    by_contra hf
    rw [h.primary (by simpa using hf)] at hn
    cases hn
  · have hn := (hnone hok).2
    by_contra hf
    rw [h.secondary hp (by simpa using hf)] at hn
    cases hn

def Tied (ς : Outsiders) (tie : Needs → Session → Prop) (debt : Debt) (x : Except Error Unit)
    (t : List (Change Desk)) (d : Desk) : Prop :=
  ∃ needs s, (x = .ok () → needs.satisfied = true) ∧ tie needs s ∧ Held ς s [] debt t d

theorem Tied.reconnected {s₀ : Session} {x : Except Error Unit}
    (h : Tied ς (Session.Sought s₀) debt x t d) : ∃ s, Reconnected s₀ s x ∧ Held ς s [] debt t d := by
  obtain ⟨needs, s, hx, hs, h⟩ := h
  exact ⟨s, .of_sought hs hx, h⟩

theorem orderly_seek (htie : Session.Kept tie) (h : Held ς s [] debt t d) (hs : tie needs s) :
    (seek needs).Ensures (watch ς) (fun x t d => ∃ needs s,
      (x = .ok () ↔ needs.satisfied = true) ∧ tie needs s ∧ Held ς s [] debt t d) t d := by
  unfold seek
  split
  · rename_i hn
    exact ⟨needs, s, iff_of_true rfl hn, hs, h⟩
  · refine (orderly_search htie h hs).bind fun o t d hd => ?_
    obtain ⟨s', hs, h⟩ := hd
    refine ⟨o.needs, s', ?_, hs, h⟩
    unfold Search.Outcome.result
    cases hn : o.needs.satisfied <;> simp

theorem orderly_seekPrimary (htie : Session.Kept tie) (h : Held ς s [] debt t d)
    (hs : ∀ now, tie ⟨true, false⟩ { s with outage := s.outage.recordAttempt now }) :
    reconnectSingle.Ensures (watch ς) (fun x t d => ∃ needs s,
      (x = .ok () ↔ needs.satisfied = true) ∧ tie needs s ∧ Held ς s [] debt t d) t d := by
  refine (orderly_recordAttempt h).bind fun _ t d hd => ?_
  obtain ⟨now, h⟩ := hd
  exact orderly_seek htie h (hs now)

theorem orderly_seekFailed (htie : Session.Kept tie) (h : Held ς s [] debt t d)
    (hs : ∀ now, tie ⟨s.failed .primary, s.failed .secondary⟩
      { s with outage := s.outage.recordAttempt now }) :
    reconnectReplicated.Ensures (watch ς) (Tied ς tie debt) t d := by
  refine (orderly_recordAttempt h).bind fun _ t d hd => ?_
  obtain ⟨now, h⟩ := hd
  refine orderly_session h fun t h' => ?_
  have h' := h'.congr h.core
  have hfailed (a : Active) : d.session.failed a = s.failed a :=
    (congrFun (Session.failed_of_core h.core) a).trans (by cases a <;> rfl)
  split
  · exact ⟨_, _, nofun, hs now, h'⟩
  · have htied : tie ⟨d.session.failed .primary, d.session.failed .secondary⟩
        { s with outage := s.outage.recordAttempt now } := by
      rw [hfailed, hfailed]
      exact hs now
    refine (orderly_seek htie h' htied).mono fun _ _ _ hd => ?_
    obtain ⟨needs, s', hx, hs, h⟩ := hd
    exact ⟨needs, s', hx.1, hs, h⟩

theorem orderly_reconnectSingle (h : Held ς s [] debt t d) (hp : s.policy = .single) :
    reconnectSingle.Ensures (watch ς)
      (fun x t d => ∃ s', Reconnected s s' x ∧ Held ς s' [] debt t d) t d := by
  refine (orderly_seekPrimary (Session.kept_sought s) h fun now => ?_).mono fun _ _ _ hd => ?_
  · refine ⟨rfl, rfl, rfl, fun _ => rfl, fun hr => ?_⟩
    rw [show s.policy = .replicated from hr] at hp
    cases hp
  · obtain ⟨needs, s', hx, hs, h⟩ := hd
    exact Tied.reconnected ⟨needs, s', hx.1, hs, h⟩

theorem orderly_reconnectReplicated (h : Held ς s [] debt t d) :
    reconnectReplicated.Ensures (watch ς)
      (fun x t d => ∃ s', Reconnected s s' x ∧ Held ς s' [] debt t d) t d :=
  (orderly_seekFailed (Session.kept_sought s) h fun _ => ⟨rfl, rfl, rfl, id, fun _ => id⟩).mono
    fun _ _ _ h => h.reconnected

theorem orderly_reconnect (h : Held ς s [] debt t d) :
    reconnect.Ensures (watch ς)
      (fun x t d => ∃ s', Reconnected s s' x ∧ Held ς s' [] debt t d) t d := by
  refine orderly_session h fun t h' => ?_
  have h' := h'.congr h.core
  split <;> rename_i hp
  · exact orderly_reconnectSingle h' ((Session.policy_of_core h.core).symm.trans hp)
  · exact orderly_reconnectReplicated h'

theorem orderly_tryReconnect {r : Act (Except Error Unit)}
    (h : r.Ensures (watch ς) (fun x t d => ∃ s', Reconnected s s' x ∧ Held ς s' [] debt t d) t d) :
    (discard r).Ensures (watch ς) (fun _ t d => ∃ s', Held ς s' [] debt t d) t d :=
  (h.mono fun _ _ _ hd => hd.imp fun _ hs => hs.2).discard

end Search
end Act
end Failover
