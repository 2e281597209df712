import Failover.Proofs.Office.Opening
import Failover.Proofs.Office.OrderlyService

/-!
A session that has just been opened is in order, and stays so.
-/
namespace Failover
open Desk Routine

namespace Session

/-- While a session is opened a role is needed as long as its slot is empty, and nothing has failed
yet. -/
structure Filling (needs : Needs) (s : Session) : Prop where
  readOnly : s.outage.readOnlyRequested = false
  good : ∀ a, s.failed a = false
  active : s.active = .primary
  primary : needs.primary = (s.slot .primary).isNone
  secondary : needs.replica = (decide (s.policy = .replicated) && (s.slot .secondary).isNone)
  single : s.policy = .single → s.slot .secondary = none

theorem Filling.replicated_of_slot {needs : Needs} {s : Session} (h : Filling needs s)
    (hs : s.slot .secondary ≠ none) : s.policy = .replicated := by
  cases hp : s.policy with
  | single => exact (hs (h.single hp)).elim
  | replicated => rfl

theorem Filling.replicated_of_needed {needs : Needs} {s : Session} (h : Filling needs s)
    (hn : needs.replica = true) : s.policy = .replicated := by
  have hwanted := h.secondary
  rw [hn] at hwanted
  cases hp : s.policy with
  | single => simp [hp] at hwanted
  | replicated => rfl

theorem Filling.vacant {needs : Needs} {s : Session} (h : Filling needs s) (hp : s.policy = .single)
    (hn : needs.satisfied = false) : s.primary = none ∧ s.secondary = none := by
  have hreplica : needs.replica = false := by simp [h.secondary, hp]
  have hneeded : needs.primary = true := by simpa [Needs.satisfied, hreplica] using hn
  rw [h.primary] at hneeded
  exact ⟨Option.isNone_iff_eq_none.1 hneeded, h.single hp⟩

theorem kept_filling : Kept Filling := by
  intro needs role x s s' h hw ht
  rcases ht with ⟨hp, hslot, rfl⟩ | hseats
  · cases role with
    | primary => cases hslot
    | replica =>
      have hneeded := h.secondary
      rw [hp, show needs.replica = true from hw] at hneeded
      cases hneeded
    | unset => cases hw
  · have hgood (a : Active) : s'.failed a = false := by simp [hseats.failed, h.good]
    have hreadOnly := hseats.readOnly.trans h.readOnly
    have hf : s.outage.primaryFailed = false := h.good .primary
    have hactive : s'.active = .primary := by
      rw [hseats.active]
      cases hr : role.slot <;> simp [moves, h.readOnly, h.active, hf]
    cases role with
    | primary =>
      refine ⟨hreadOnly, hgood, hactive, ?_, ?_, fun hp => ?_⟩
      · rw [hseats.slot]
        rfl
      · rw [hseats.slot, hseats.policy]
        exact h.secondary
      · rw [hseats.slot]
        exact h.single (hseats.policy.symm.trans hp)
    | replica =>
      refine ⟨hreadOnly, hgood, hactive, ?_, ?_, fun hp => ?_⟩
      · rw [hseats.slot]
        exact h.primary
      · rw [hseats.slot]
        simp [Needs.clear, Role.slot]
      · cases hseats.single (hseats.policy.symm.trans hp)
    | unset => cases hw

end Session

/-- A session that has been opened is in order, and one with a single writer has one. -/
structure Started (ς : Outsiders) (t : List (Change Desk)) (d : Desk) : Prop extends
    Order ς [] {} t d where
  good : d.session.policy = .single → d.session.failed .primary = false

theorem Held.started {ς : Outsiders} {s : Session} {t : List (Change Desk)} {d : Desk}
    (h : Held ς s [] { unready := true } t d) (hw : s.Well)
    (hs : s.policy = .single → s.failed .primary = false) : Started ς t d := by
  refine ⟨⟨h.shut, h.known, fun _ _ => hw.of_core h.core, h.routed, h.watched, h.tidy⟩, fun hp => ?_⟩
  rw [Session.failed_of_core h.core]
  exact hs ((Session.policy_of_core h.core).symm.trans hp)

theorem Started.pass {ς : Outsiders} {t : List (Change Desk)} {d d' : Desk} {own : Bool} {now : Nat}
    (h : Started ς t d) (ha : OutsideLock ς d d')
    (hown : own = true → d'.network.connections.size = d.network.connections.size) :
    Started ς (⟨own, now, d, d'⟩ :: t) d' := by
  refine ⟨h.toOrder.pass ha hown, fun hp => ?_⟩
  rw [Session.failed_of_core ha.core]
  exact h.good ((Session.policy_of_core ha.core).symm.trans hp)

namespace Act
variable {ς : Outsiders} {s : Session} {needs : Needs} {t : List (Change Desk)} {d : Desk}

theorem order_unopened (topology : Topology) (options : Options) (registry : Registry)
    (n : Network) :
    Order ς [] { unready := true } [] ⟨Session.unopened topology options registry, n⟩ := by
  have hnothing (x : Handle) : ¬Acquired [] x := by simp [Acquired]
  have hslot (a : Active) (x : Handle) :
      (Session.unopened topology options registry).slot a ≠ some x := by
    cases a <;> simp [Session.unopened, Session.slot]
  have hfailed (a : Active) : (Session.unopened topology options registry).failed a = false := by
    cases a <;> rfl
  have hrouted : (Session.unopened topology options registry).Routed := by
    constructor
    · intro hs
      cases hs
    · intro _ hr
      cases hr
  have htidy : Tidy [] [] ⟨Session.unopened topology options registry, n⟩ := by
    refine ⟨fun a x hx => (hslot a x hx).elim, fun x hx => (hnothing x hx).elim,
      fun a _ x hx => (hslot a x hx).elim, fun x hx => ?_, List.nodup_nil⟩
    cases hx
  refine ⟨by simp, fun x hx => (hnothing x hx).elim, fun _ hd => ?_, fun _ _ _ => .inr hrouted,
    fun _ _ a _ hf => ?_, fun _ _ => htidy⟩
  · cases hd
  · rw [hfailed a] at hf
    cases hf

theorem orderly_openArmed {u : Active → Bool}
    (h : Held ς s [] { unready := true, unwatched := u } t d) (hw : s.Well)
    (hp : s.policy = .replicated) : (do
      armRetry retryPeriod
      return .ok () : Act (Except Error Unit)).Ensures (watch ς) (fun _ => Started ς) t d := by
  refine (orderly_armRetry retryPeriod h).bind fun _ _ _ h => h.started hw fun hs => ?_
  rw [hp] at hs
  cases hs

theorem orderly_openOnSecondary (h : Held ς s [] { unready := true } t d)
    (hp : s.policy = .replicated) (hfilled : s.slot .secondary ≠ none) : (do
      discard markPrimary
      update fun s => { s with active := .secondary }
      armRetry retryPeriod
      return .ok () : Act (Except Error Unit)).Ensures (watch ς) (fun _ => Started ς) t d := by
  have hsingle : s.policy ≠ .single := by simp [hp]
  refine (orderly_markPrimary h).discard.bind fun _ t d hd => ?_
  obtain ⟨now, h⟩ := hd
  have hfailed := Session.failed_mark s .primary now
  refine ensures_bind.2 (ensures_change.2 fun now' => ?_)
  obtain ⟨hfair, h⟩ := h.turn (a := .secondary) now' hfilled (fun hs => (hsingle hs).elim)
    (Session.routed_secondary hfailed)
  refine ⟨fun hc => ⟨hc, hfair⟩, orderly_openArmed h ⟨?_, fun _ a ha => ?_, fun hs => ?_⟩ hp⟩
  · exact Option.ne_none_iff_exists'.1 hfilled
  · cases a with
    | primary => exact hfailed
    | secondary => exact (hfilled ha).elim
  · exact (hsingle hs).elim

theorem orderly_openOnPrimary (h : Held ς s [] { unready := true } t d)
    (hp : s.policy = .replicated) (ha : s.active = .primary) (hfilled : s.slot .primary ≠ none) :
    (do
      discard markSecondary
      armRetry retryPeriod
      return .ok () : Act (Except Error Unit)).Ensures (watch ς) (fun _ => Started ς) t d := by
  have hsingle : s.policy ≠ .single := by simp [hp]
  obtain ⟨x, hx⟩ := Option.ne_none_iff_exists'.1 hfilled
  refine (orderly_markSecondary h fun hs => (hsingle hs).elim).discard.bind fun _ t d hd => ?_
  obtain ⟨now, h⟩ := hd
  refine orderly_openArmed h ⟨⟨x, ?_⟩, fun _ a hn => ?_, fun hs => (hsingle hs).elim⟩ hp
  · rw [Session.current_eq]
    exact (congrArg s.slot ha).trans hx
  · cases a with
    | primary => exact (hfilled hn).elim
    | secondary => exact Session.failed_mark s .secondary now

/-- Without every role the session opens all the same, and the retry loop looks for the other. -/
theorem orderly_openPartly (e : Error) (h : Held ς s [] { unready := true } t d)
    (hs : Session.Filling needs s) (hn : needs.satisfied = false) : (do
      let s ← session
      if s.primary.isNone && s.secondary.isNone then return .error e
      else
        if needs.primary then
          discard markPrimary
          update fun s => { s with active := .secondary }
        if needs.replica then discard markSecondary
        armRetry retryPeriod
        return .ok () : Act (Except Error Unit)).Ensures (watch ς)
      (fun x t d => x = .ok () → Started ς t d) t d := by
  refine orderly_session h fun t h' => ?_
  have hprimary : d.session.primary = s.slot .primary := Session.primary_of_core h.core
  have hsecondary : d.session.secondary = s.slot .secondary := Session.secondary_of_core h.core
  have h := h'.congr h.core
  have hneeded := hs.primary
  have hwanted := hs.secondary
  split
  · exact nofun
  · rename_i hfilled
    rw [hprimary, hsecondary] at hfilled
    cases hfirst : needs.primary with
    | true =>
      rw [hfirst] at hneeded
      have hkept : s.slot .secondary ≠ none := by
        intro hnone
        exact hfilled (by rw [← hneeded, hnone]; rfl)
      have hno : needs.replica = false := by simp [hwanted, Option.isSome_iff_ne_none, hkept]
      rw [hno]
      exact (orderly_openOnSecondary h (hs.replicated_of_slot hkept) hkept).mono fun _ _ _ h _ => h
    | false =>
      rw [hfirst] at hneeded
      have hkept : s.slot .primary ≠ none := by
        intro hnone
        rw [hnone] at hneeded
        cases hneeded
      have hr : needs.replica = true := by simpa [Needs.satisfied, hfirst] using hn
      rw [hr]
      exact (orderly_openOnPrimary h (hs.replicated_of_needed hr) hs.active hkept).mono
        fun _ _ _ h _ => h

end Act

theorem Session.Filling.well {needs : Needs} {s : Session} (hs : Session.Filling needs s)
    (hn : needs.satisfied = true) : s.Well := by
  have hnone : needs.primary = false ∧ needs.replica = false := by
    simpa [Needs.satisfied] using hn
  have hneeded := hs.primary
  have hwanted := hs.secondary
  rw [hnone.1] at hneeded
  rw [hnone.2] at hwanted
  have hfilled : s.slot .primary ≠ none := by
    intro hx
    rw [hx] at hneeded
    cases hneeded
  refine ⟨?_, fun hp a ha => ?_, fun hp => ⟨hs.active, hs.single hp, hs.good .secondary⟩⟩
  · rw [Session.current_eq, hs.active]
    exact Option.ne_none_iff_exists'.1 hfilled
  · cases a with
    | primary => exact (hfilled ha).elim
    | secondary => simp [hp, ha] at hwanted

namespace Act
variable {ς : Outsiders} {topology : Topology} {options : Options} {registry : Registry}
  {n : Network} {t : List (Change Desk)} {d : Desk}

theorem filling_unopened (topology : Topology) (options : Options) (registry : Registry) :
    Session.Filling
      (match (Session.unopened topology options registry).policy with
        | .single => ⟨true, false⟩
        | .replicated => ⟨true, true⟩)
      (Session.unopened topology options registry) := by
  refine ⟨rfl, fun a => ?_, rfl, ?_, ?_, fun _ => rfl⟩
  · cases a <;> rfl
  · split <;> rfl
  · split <;> rename_i hp <;> rw [hp] <;> rfl

theorem started_initialConnect {t₀ : List (Change Desk)} {d₀ : Desk}
    (h : Held ς (Session.unopened topology options registry) [] { unready := true } t₀ d₀)
    (hplay : initialConnect.Plays (OutsideLock ς) t₀ d₀ (.ok ()) t d) : Started ς t d := by
  obtain ⟨t₁, d₁, ho, hbody⟩ := plays_locked.1 hplay
  have h : Held ς (Session.unopened topology options registry) [] { unready := true } t₁ d₁ :=
    ho.preserves (fun _ _ _ _ h ha => h.pass ha (by simp)) h
  refine Ensures.plays (ρ := watch ς) (Q := fun x t d => x = .ok () → Started ς t d) ?_ hbody rfl
  refine orderly_session h fun t h' => ?_
  have hpolicy := Session.policy_of_core h.core
  refine (orderly_search Session.kept_filling (h'.congr h.core) ?_).bind fun o t d hd => ?_
  · rw [hpolicy]
    exact filling_unopened topology options registry
  · obtain ⟨s', hs, h⟩ := hd
    unfold Search.Outcome.result
    cases hn : o.needs.satisfied with
    | true => exact fun _ => h.started (hs.well hn) fun _ => hs.good .primary
    | false => exact orderly_openPartly _ h hs hn

theorem started_connect
    (hplay : connect.Plays (OutsideLock ς) [] ⟨Session.unopened topology options registry, n⟩ (.ok ())
      t d) : Started ς t d := by
  obtain ⟨now, t₁, d₁, hinit, htouch⟩ := opens_of_connect hplay
  have hnew : Held ς (Session.unopened topology options registry) [] { unready := true } [] _ :=
    .of_order (order_unopened topology options registry n)
  have h := started_initialConnect (hnew.look now) hinit
  have hsteps : touchPing.Ensures ⟨OutsideLock ς, fun _ _ => True⟩ (fun _ => Started ς) t₁ d₁ :=
    (side_touchPing Network.suffices_keeps).ensures (fun _ _ _ _ h ha => h.pass ha (by simp))
      (fun _ _ _ _ h hs => ⟨trivial, h.pass hs.outsideLock fun _ => hs.size⟩) h
  exact hsteps.plays htouch

end Act

/-- A session has just been opened, and this is the chronicle of its opening: nobody is at work for
it, save in its background. -/
structure Office.Founded (ς : Outsiders) (t : List (Change Desk)) (o : Office) : Prop where
  connected : ∃ topology options registry n, Act.connect.Plays (OutsideLock ς) []
    ⟨Session.unopened topology options registry, n⟩ (.ok ()) t o.desk
  busy : o.busy = none
  keeper : o.keeper = none
  idle : ∀ c ∈ o.idle, ∃ e, c = .fresh (.errand e)

namespace Desk

/-- A session yet to be opened, over a primary and a replica. -/
def unopened (options : Options) (cluster : Cluster) : Desk :=
  ⟨Session.unopened (.ofHosts .replication ((Cluster.replicationHosts 1).map (·.1))) options .own,
    { cluster }⟩

/-- Something happens to the servers. -/
def amid (f : Cluster → Cluster) (d : Desk) : Desk :=
  ⟨d.session, { d.network with cluster := f d.network.cluster }⟩

theorem outsideLock_amid {ς : Outsiders} (f : Cluster → Cluster) (d : Desk) :
    OutsideLock ς d (d.amid f) :=
  ⟨rfl, id, fun _ _ => id, Nat.le_refl _, fun _ _ _ _ => rfl⟩

end Desk

namespace Office
variable {ς : Outsiders} {ask : Request → Prop} {visitor : Clerk → Prop}
  {t₀ t : List (Change Desk)} {o₀ o : Office}

def opening (d : Desk) : List (Change Desk) := (Act.connect.alone 0 [] d).2.1

def amid (f : Cluster → Cluster) (o : Office) : Office := o.change false 0 (o.desk.amid f)

theorem Chronicle.amid (h : Chronicle ask visitor (OutsideLock ς) t₀ o₀ t o) (hbusy : o.busy = none)
    (f : Cluster → Cluster) :
    Chronicle ask visitor (OutsideLock ς) t₀ o₀ (⟨false, 0, o.desk, o.desk.amid f⟩ :: t) (o.amid f) :=
  h.step (.befall 0 _ hbusy (outsideLock_amid f o.desk)) (.inr ⟨_, rfl, rfl⟩)

theorem founded_opened {topology : Topology} {options : Options} {registry : Registry} {n : Network}
    (hok : (Act.connect.alone 0 [] ⟨Session.unopened topology options registry, n⟩).1 = .ok ()) :
    (opened ⟨Session.unopened topology options registry, n⟩).Founded ς
      (opening ⟨Session.unopened topology options registry, n⟩) := by
  have hplay := plays_alone (OutsideLock ς) 0 Act.connect []
    ⟨Session.unopened topology options registry, n⟩
  rw [hok] at hplay
  exact ⟨⟨_, _, _, _, hplay⟩, rfl, rfl, nofun⟩

theorem Founded.started (ho : o₀.Founded ς t₀) : Started ς t₀ o₀.desk := by
  obtain ⟨_, _, _, _, hplay⟩ := ho.connected
  exact Act.started_connect hplay

theorem Founded.begins {ω : Regime} (ho : o₀.Founded ς t₀) (hω : ω.Admits)
    (hin : ω.inOrder t₀ o₀.desk) : o₀.Kept ω t₀ :=
  .of_rest hω ho.busy ho.keeper ho.idle hin

theorem Founded.kept (ho : o₀.Founded ς t₀) (hvisitor : ∀ c, visitor c → ς.handsIn ∧ HandsIn c)
    (h : Chronicle ask visitor (OutsideLock ς) t₀ o₀ t o) : o.Kept (tending ς) t := by
  refine h.kept (fun _ _ ha => ha) (fun _ _ _ _ h ha => ?_)
    (fun r _ => (admits_tending ς).request r) (admits_tending ς).errand
    (fun c hc => waits_handsIn (hvisitor c hc).1 (hvisitor c hc).2)
    (ho.begins (admits_tending ς) ho.started.toOrder)
  exact Order.pass h ha (by simp)

end Office
end Failover
