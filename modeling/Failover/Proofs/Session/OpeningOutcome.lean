import Failover.Proofs.Office.Founded
import Failover.Proofs.Session.RetryRound

/-!
How a session opens. Which roles some candidate serves decides whether it does, what is in its slots
then, and what it goes on looking for; what is drawn and which hosts are left out decide nothing.
-/
namespace Failover
open Desk Routine Search

def Network.serves (n : Network) (mode : Mode) (hosts : List Host) (role : Role) : Bool :=
  (Topology.ofHosts mode hosts).hosts.any fun h => n.role? mode h = some role

theorem Network.serves_congr {n n' : Network} (h : ∀ e, n'.standing e = n.standing e) (mode : Mode)
    (hosts : List Host) (role : Role) : n'.serves mode hosts role = n.serves mode hosts role := by
  have hrole (x : Host) : n'.role? mode x = n.role? mode x :=
    role?_eq_of_standing mode (h x.endpoint)
  simp only [serves, hrole]

/-- What can be seen of a session: whether its slots are filled, what has failed, which connection
serves, and whether failed roles are looked for. -/
structure Status where
  primary : Bool
  secondary : Bool
  primaryFailed : Bool := false
  secondaryFailed : Bool := false
  active : Active := .primary
  seeking : Bool := false
  deriving DecidableEq

def Session.status (s : Session) : Status where
  primary := s.primary.isSome
  secondary := s.secondary.isSome
  primaryFailed := s.outage.primaryFailed
  secondaryFailed := s.outage.secondaryFailed
  active := s.active
  seeking := s.retryLoop.armed

namespace Policy

def wanted : Policy → Needs
  | .single => ⟨true, false⟩
  | .replicated => ⟨true, true⟩

/-- A session opens where a primary can be reached, and one with a replica where a replica can. -/
def opening (p r : Bool) : Policy → Except Error Unit
  | .single => if p then .ok () else .error (.noHostFound ⟨true, false⟩)
  | .replicated => if p || r then .ok () else .error (.noHostFound ⟨true, true⟩)

/-- What it has found then fills its slots, and what it has not found is failed and looked for. -/
def opened (p r : Bool) : Policy → Status
  | .single => { primary := p, secondary := false }
  | .replicated =>
    { primary := p
      secondary := r
      primaryFailed := !p
      secondaryFailed := !r
      active := if p then .primary else .secondary
      seeking := !p || !r }

end Policy

namespace Desk

/-- A session on its way is left alone, and so are the servers and the connections there are. -/
structure Undisturbed (d d' : Desk) : Prop where
  session : d'.session = d.session
  steady : d.network.Steady d'.network

theorem Undisturbed.outsideLock {d d' : Desk} (h : Undisturbed d d') : OutsideLock .everyone d d' := by
  refine ⟨?_, ?_, ?_, h.steady.size, fun _ x _ hx => h.steady.closed x hx⟩
  · rw [h.session]
  · rw [h.session]
    exact id
  · rw [h.session]
    exact fun _ _ => id

end Desk

namespace Session

/-- A session that is being opened: its slots wait for what is still needed, and nothing is looked
for in the background. -/
structure Unstarted (policy : Policy) (needs : Needs) (s : Session) : Prop extends
    Filling needs s where
  kind : s.policy = policy
  open' : s.closed = false
  unarmed : s.retryLoop.armed = false

theorem Filling.of_core {needs : Needs} {s s' : Session} (hc : s'.core = s.core)
    (h : Filling needs s) : Filling needs s' := by
  refine ⟨?_, fun a => ?_, ?_, ?_, ?_, fun hp => ?_⟩
  · rw [readOnlyRequested_of_core hc, h.readOnly]
  · rw [failed_of_core hc, h.good]
  · rw [active_of_core hc, h.active]
  · rw [slot_of_core hc, h.primary]
  · rw [slot_of_core hc, policy_of_core hc, h.secondary]
  · rw [policy_of_core hc] at hp
    rw [slot_of_core hc, h.single hp]

theorem Unstarted.failed {policy : Policy} {needs : Needs} {s : Session}
    (h : s.Unstarted policy needs) :
    s.outage.primaryFailed = false ∧ s.outage.secondaryFailed = false :=
  ⟨h.good .primary, h.good .secondary⟩

theorem Unstarted.status {policy : Policy} {needs : Needs} {s : Session}
    (h : s.Unstarted policy needs) : s.status =
      { primary := !needs.primary
        secondary := decide (policy = .replicated) && !needs.replica } := by
  have hprimary : s.primary.isSome = !needs.primary := by
    rw [h.primary, Session.slot, Option.not_isNone]
  have hsecondary : s.secondary.isSome = (decide (policy = .replicated) && !needs.replica) := by
    cases policy with
    | single => exact Option.isSome_eq_false_iff.2 (Option.isNone_iff_eq_none.2 (h.single h.kind))
    | replicated =>
      rw [h.secondary, h.kind, Session.slot]
      simp
  simp only [Session.status, hprimary, hsecondary, h.failed, h.active, h.unarmed]

end Session

namespace Act
variable {policy : Policy} {mode : Mode} {hosts : List Host} {n₀ : Network} {s : Session}
  {needs : Needs} {t : List (Change Desk)} {d : Desk}

/-- The first search leaves just those needs open for which there is no candidate. -/
theorem launched_search (hcalm : n₀.Calm) (hn : n₀.SameServers d.network)
    (ht : d.session.topology = .ofHosts mode hosts)
    (h : Held .everyone d.session [] { unready := true } t d)
    (hs : d.session.Unstarted policy policy.wanted) :
    (search policy.wanted).Ensures (anything Undisturbed) (fun o _ d =>
      o.needs = ⟨policy.wanted.primary && !n₀.serves mode hosts .primary,
        policy.wanted.replica && !n₀.serves mode hosts .replica⟩ ∧
      d.session.Unstarted policy o.needs) t d := by
  have hfound : (search policy.wanted).Ensures (anything Undisturbed) (fun o _ _ => o.needs =
      missing d.session.topology.mode n₀ d.session.topology.hosts policy.wanted) t d := by
    refine restores_search (fun _ _ (ho : Undisturbed _ _) => ho.steady) hcalm hn ?_
    rw [ht]
    exact normal_ofHosts mode hosts
  have hfilled := (orderly_search Session.kept_filling h hs.toFilling).amid
    fun _ _ (ho : Undisturbed _ _) => ho.outsideLock
  have hstill : (search policy.wanted).Ensures (anything Undisturbed) (fun _ _ d' =>
      d'.session.policy = d.session.policy ∧ d'.session.closed = d.session.closed ∧
        d'.session.retryLoop = d.session.retryLoop) t d := by
    have hsteps : (search policy.wanted).Steps fun d d' =>
        d'.session.policy = d.session.policy ∧ d'.session.closed = d.session.closed ∧
          d'.session.retryLoop = d.session.retryLoop := by
      refine steps_search ?_ ?_ ?_ ?_ _
      · exact fun _ _ => ⟨rfl, rfl, rfl⟩
      · exact fun _ _ => ⟨rfl, rfl, rfl⟩
      · exact fun _ _ _ => ⟨rfl, rfl, rfl⟩
      · exact fun _ _ _ => ⟨rfl, rfl, rfl⟩
    refine hsteps.ensures ?_ ?_ ⟨rfl, rfl, rfl⟩
    · intro _ _ _ _ hsame ho
      rwa [ho.session]
    · intro _ _ _ _ hsame hok
      exact ⟨trivial, hok.1.trans hsame.1, hok.2.1.trans hsame.2.1, hok.2.2.trans hsame.2.2⟩
  refine ((hfound.and hfilled).and hstill).mono fun o t' d' hd => ?_
  obtain ⟨⟨hneeds, s', hfilling, hheld⟩, hpolicy, hclosed, hloop⟩ := hd
  refine ⟨?_, ⟨hfilling.of_core hheld.core, hpolicy.trans hs.kind, hclosed.trans hs.open', ?_⟩⟩
  · rw [hneeds, ht]
    rfl
  · rw [hloop]
    exact hs.unarmed

theorem launched_armRetry {delay : Nat} (hopen : d.session.closed = false)
    (hstill : d.session.retryLoop.armed = false) :
    (armRetry delay).Ensures (anything Undisturbed)
      (fun _ _ d' => d'.session.status = { d.session.status with seeking := true }) t d := by
  refine ensures_bind.2 (ensures_transact.2 fun now => ⟨trivial, ?_⟩)
  simp only [hopen, Repeater.arm?, hstill, Bool.false_eq_true, if_false]
  rfl

theorem launched_markPrimary : (discard markPrimary).Ensures (anything Undisturbed) (fun _ _ d' =>
    ∃ now, d'.session = { d.session with outage := d.session.outage.markPrimary now }) t d :=
  Ensures.discard (ensures_transact.2 fun now => ⟨trivial, now, rfl⟩)

theorem launched_markSecondary : (discard markSecondary).Ensures (anything Undisturbed)
    (fun _ _ d' =>
      ∃ now, d'.session = { d.session with outage := d.session.outage.markSecondary now }) t d :=
  Ensures.discard (ensures_transact.2 fun now => ⟨trivial, now, rfl⟩)

/-- What a search has not found is failed from then on, and the other connection serves. -/
theorem launched_partly (hs : d.session.Unstarted .replicated needs)
    (hone : needs.primary = !needs.replica) : (do
      if needs.primary then
        discard markPrimary
        update fun s => { s with active := .secondary }
      if needs.replica then discard markSecondary
      armRetry retryPeriod
      return .ok () : Act (Except Error Unit)).Ensures (anything Undisturbed)
      (fun x _ d => x = .ok () ∧
        d.session.status = Policy.opened (!needs.primary) (!needs.replica) .replicated) t d := by
  have hstatus := hs.status
  have hfailed := hs.failed
  obtain ⟨primary, replica⟩ := needs
  cases replica with
  | false =>
    obtain rfl : primary = true := hone
    refine launched_markPrimary.bind fun _ t d₁ hd₁ => ?_
    obtain ⟨now, hd₁⟩ := hd₁
    refine ensures_bind.2 (ensures_change.2 fun now' => ⟨trivial, ?_⟩)
    refine Ensures.bind (launched_armRetry ?_ ?_) fun _ t d' hd => ⟨rfl, hd.trans ?_⟩
    · rw [hd₁]
      exact hs.open'
    · rw [hd₁]
      exact hs.unarmed
    · simp_all [Session.status, Policy.opened, Outage.markPrimary, Outage.primaryFailed,
        Outage.secondaryFailed]
  | true =>
    obtain rfl : primary = false := hone
    refine launched_markSecondary.bind fun _ t d₁ hd₁ => ?_
    obtain ⟨now, hd₁⟩ := hd₁
    refine Ensures.bind (launched_armRetry ?_ ?_) fun _ t d' hd => ⟨rfl, hd.trans ?_⟩
    · rw [hd₁]
      exact hs.open'
    · rw [hd₁]
      exact hs.unarmed
    · simp_all [Session.status, Policy.opened, Outage.markSecondary, Outage.primaryFailed,
        Outage.secondaryFailed]

/-- What the first search leaves decides whether the session opens, and how it stands then. -/
theorem launched_outcome {o : Outcome} (p r : Bool) (hs : d.session.Unstarted policy o.needs)
    (hneeds : o.needs = ⟨policy.wanted.primary && !p, policy.wanted.replica && !r⟩) : (do
      match o.result with
      | .ok _ => return .ok ()
      | .error e =>
        let s ← session
        if s.primary.isNone && s.secondary.isNone then return .error e
        else
          if o.needs.primary then
            discard markPrimary
            update fun s => { s with active := .secondary }
          if o.needs.replica then discard markSecondary
          armRetry retryPeriod
          return .ok () : Act (Except Error Unit)).Ensures (anything Undisturbed) (fun x _ d =>
        x = policy.opening p r ∧ (x = .ok () → d.session.status = policy.opened p r)) t d := by
  have hstatus := hs.status
  have hprimary := congrArg Status.primary hstatus
  have hsecondary := congrArg Status.secondary hstatus
  simp only [Session.status] at hprimary hsecondary
  unfold Outcome.result
  cases hn : o.needs.satisfied with
  | true =>
    rw [hneeds] at hn hstatus
    refine ⟨?_, fun _ => hstatus.trans ?_⟩
    · cases policy <;> simp_all [Needs.satisfied, Policy.wanted, Policy.opening]
    · cases policy <;> simp_all [Needs.satisfied, Policy.wanted, Policy.opened]
  | false =>
    refine ensures_bind.2 (ensures_read.2 fun now => ⟨trivial, ?_⟩)
    simp only [← Option.not_isSome, hprimary, hsecondary]
    have hp : p = !o.needs.primary := by cases policy <;> simp [hneeds, Policy.wanted]
    cases policy with
    | single =>
      have hneed : o.needs.primary = true := by
        simpa [hneeds, Needs.satisfied, Policy.wanted] using hn
      rw [hneed] at hp
      rw [if_pos (by simp [hneed])]
      refine ⟨?_, fun hx => by cases hx⟩
      simp [hneeds, hp, Policy.wanted, Policy.opening]
    | replicated =>
      have hr : r = !o.needs.replica := by simp [hneeds, Policy.wanted]
      rw [hp, hr]
      split <;> rename_i hnone
      · have hboth : o.needs.primary = true ∧ o.needs.replica = true := by simpa using hnone
        refine ⟨?_, fun hx => by cases hx⟩
        rw [hboth.1, hboth.2, show o.needs = ⟨true, true⟩ from congrArg₂ Needs.mk hboth.1 hboth.2]
        rfl
      · have hone : o.needs.primary = !o.needs.replica := by
          simp only [Needs.satisfied] at hn
          revert hn hnone
          cases o.needs.primary <;> cases o.needs.replica <;> simp
        refine (launched_partly hs hone).mono fun x _ _ hd => ⟨hd.1.trans ?_, fun _ => hd.2⟩
        rw [hone]
        cases o.needs.replica <;> rfl

theorem unstarted_unopened (mode : Mode) (hosts : List Host) (options : Options)
    (registry : Registry) :
    (Session.unopened (.ofHosts mode hosts) options registry).Unstarted mode.policy
      mode.policy.wanted :=
  ⟨filling_unopened (.ofHosts mode hosts) options registry, rfl, rfl, rfl⟩

theorem launched_initialConnect {options : Options} {registry : Registry} {x : Except Error Unit}
    {t' : List (Change Desk)} {d' : Desk} (hcalm : n₀.Calm) (hn : n₀.SameServers d.network)
    (hs : d.session = Session.unopened (.ofHosts mode hosts) options registry)
    (h : Held .everyone d.session [] { unready := true } t d)
    (hplay : initialConnect.Plays Undisturbed t d x t' d') :
    x = mode.policy.opening (n₀.serves mode hosts .primary) (n₀.serves mode hosts .replica) ∧
      (x = .ok () → d'.session.status =
        mode.policy.opened (n₀.serves mode hosts .primary) (n₀.serves mode hosts .replica)) := by
  obtain ⟨t₁, d₁, ho, hbody⟩ := plays_locked.1 hplay
  obtain ⟨h, hn, hs⟩ : Held .everyone d₁.session [] { unready := true } t₁ d₁ ∧
      n₀.SameServers d₁.network ∧
      d₁.session = Session.unopened (.ofHosts mode hosts) options registry := by
    refine ho.preserves (P := fun t d => Held .everyone d.session [] { unready := true } t d ∧
      n₀.SameServers d.network ∧
      d.session = Session.unopened (.ofHosts mode hosts) options registry)
      (fun t d d' now hd ho => ?_) ⟨h, hn, hs⟩
    obtain ⟨h, hn, hs⟩ := hd
    refine ⟨?_, hn.trans ho.steady.toSameServers, ho.session.trans hs⟩
    rw [ho.session]
    exact h.pass ho.outsideLock (by simp)
  refine Ensures.plays (ρ := anything Undisturbed) (Q := fun x _ d => x = mode.policy.opening _ _ ∧
    (x = .ok () → d.session.status = mode.policy.opened _ _)) ?_ hbody
  refine ensures_bind.2 (ensures_read.2 fun now => ⟨trivial, ?_⟩)
  have hpolicy : d₁.session.policy = mode.policy := by
    rw [hs]
    rfl
  have hunstarted : d₁.session.Unstarted mode.policy mode.policy.wanted := by
    rw [hs]
    exact unstarted_unopened mode hosts options registry
  have hsearch := launched_search hcalm hn (by rw [hs]; rfl) (h.look now) hunstarted
  rw [hpolicy]
  exact hsearch.bind fun o t d hd => launched_outcome _ _ hd.2 hd.1

theorem steps_touchPing_status :
    touchPing.Steps fun d d' => d'.session.status = d.session.status := by
  refine Steps.bind (steps_transact fun _ d => ?_) fun armed => steps_forM fun _ => trivial
  dsimp only
  split <;> rfl

/-- Whether a session opens, and how it stands then, is decided by the roles that its candidates
serve: neither the draws nor the hosts that are left out make a difference. -/
theorem opens_exactly {options : Options} {n : Network} (registry : Registry)
    (hvalid : options.flaw? = none) (hhosts : hosts ≠ []) (hcalm : n.Calm) :
    (∃ x t d, connect.Plays Undisturbed []
      ⟨Session.unopened (.ofHosts mode hosts) options registry, n⟩ x t d) ∧
    ∀ x t d, connect.Plays Undisturbed []
        ⟨Session.unopened (.ofHosts mode hosts) options registry, n⟩ x t d →
      (x = mode.policy.opening (n.serves mode hosts .primary) (n.serves mode hosts .replica) ∧
        (x = .ok () → d.session.status =
          mode.policy.opened (n.serves mode hosts .primary) (n.serves mode hosts .replica))) ∧
      ∀ registry' n', n'.Calm → (∀ e, n'.standing e = n.standing e) →
        ∀ x' t' d', connect.Plays Undisturbed []
            ⟨Session.unopened (.ofHosts mode hosts) options registry', n'⟩ x' t' d' →
          x' = x ∧ (x = .ok () → d'.session.status = d.session.status) := by
  have hopens {registry : Registry} {n : Network} {x : Except Error Unit} {t : List (Change Desk)}
      {d : Desk} (hcalm : n.Calm) (hplay : connect.Plays Undisturbed []
        ⟨Session.unopened (.ofHosts mode hosts) options registry, n⟩ x t d) :
      x = mode.policy.opening (n.serves mode hosts .primary) (n.serves mode hosts .replica) ∧
        (x = .ok () → d.session.status =
          mode.policy.opened (n.serves mode hosts .primary) (n.serves mode hosts .replica)) := by
    obtain ⟨s, t₁, d₁, hread, hplay⟩ := plays_bind.1 hplay
    obtain ⟨now, rfl, rfl, rfl⟩ := plays_read.1 hread
    have hnone : (Session.unopened (.ofHosts mode hosts) options registry).topology.hosts.isEmpty =
        false := by
      simpa [Session.unopened, Topology.ofHosts] using hhosts
    simp only [hnone] at hplay
    rw [show (Session.unopened (.ofHosts mode hosts) options registry).options.flaw? = none from
      hvalid] at hplay
    obtain ⟨y, t₂, d₂, hinit, hplay⟩ := plays_bind.1 hplay
    have hheld := Held.of_order (order_unopened (ς := .everyone) (.ofHosts mode hosts) options
      registry n)
    obtain ⟨hy, hstatus⟩ := launched_initialConnect hcalm (.refl n) rfl
      (hheld.look now) hinit
    cases y with
    | error e =>
      obtain ⟨rfl, rfl, rfl⟩ := plays_pure.1 hplay
      exact ⟨hy, fun hx => by cases hx⟩
    | ok _ =>
      obtain ⟨_, t₃, d₃, htouch, hplay⟩ := plays_bind.1 hplay
      obtain ⟨rfl, rfl, rfl⟩ := plays_pure.1 hplay
      have hsame : touchPing.Ensures (anything Undisturbed)
          (fun _ _ d => d.session.status = d₂.session.status) t₂ d₂ :=
        steps_touchPing_status.ensures (F := fun _ d => d.session.status = d₂.session.status)
          (fun _ _ _ _ h ho => by rwa [ho.session]) (fun _ _ _ _ h hs => ⟨trivial, hs.trans h⟩) rfl
      exact ⟨hy, fun _ => (hsame.plays htouch).trans (hstatus rfl)⟩
  refine ⟨exists_plays _ _ _ _, fun x t d hplay => ?_⟩
  obtain ⟨hx, hstatus⟩ := hopens hcalm hplay
  refine ⟨⟨hx, hstatus⟩, fun registry' n' hcalm' hstanding x' t' d' hplay' => ?_⟩
  obtain ⟨hx', hstatus'⟩ := hopens hcalm' hplay'
  rw [Network.serves_congr hstanding, Network.serves_congr hstanding] at hx' hstatus'
  refine ⟨hx'.trans hx.symm, fun hok => ?_⟩
  rw [hstatus hok]
  refine hstatus' ?_
  rw [hx', ← hx, hok]

/-- With the replica stopped, and the primary left out at first, a session opens and looks for a
replica. -/
theorem opens_exactly_without_replica :
    ∃ t d, connect.Plays Undisturbed []
      ⟨Session.unopened (.ofHosts .replication ((Cluster.replicationHosts 1).map (·.1))) {}
          .processWide,
        { cluster := (Cluster.ofHosts (Cluster.replicationHosts 1)).stop ⟨"mock-1", 3307⟩,
          processBlacklist := ⟨[(⟨"mock-0", 3306⟩, 0)]⟩ }⟩ (.ok ()) t d ∧
      d.session.status =
        { primary := true, secondary := false, secondaryFailed := true, seeking := true } := by
  have hcalm : ({ cluster := (Cluster.ofHosts (Cluster.replicationHosts 1)).stop ⟨"mock-1", 3307⟩,
                  processBlacklist := ⟨[(⟨"mock-0", 3306⟩, 0)]⟩ } : Network).Calm := by
    intro x hd
    cases hd
  have hhosts : (Cluster.replicationHosts 1).map (·.1) ≠ [] := by decide +kernel
  have hvalid : ({} : Options).flaw? = none := by decide +kernel
  obtain ⟨⟨x, t, d, hplay⟩, hall⟩ :=
    @opens_exactly .replication _ _ _ .processWide hvalid hhosts hcalm
  obtain ⟨⟨hx, hstatus⟩, -⟩ := hall x t d hplay
  have hok : x = .ok () := hx.trans (by decide +kernel)
  subst hok
  exact ⟨t, d, hplay, (hstatus rfl).trans (by decide +kernel)⟩

end Act
end Failover
