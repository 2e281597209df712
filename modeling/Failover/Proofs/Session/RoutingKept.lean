import Failover.Proofs.Network.CallFrames
import Failover.Session.Background

/-!
Work that leaves a session's routing as it is: it changes neither the slots nor what is known of
their failures, carries nothing over, and sends no operation.
-/
namespace Failover

namespace Network

def Grows (n n' : Network) : Prop := n.connections.size ≤ n'.connections.size

theorem Keeps.grows {n n' : Network} (h : Keeps n n') : Grows n n' := Nat.le_of_eq h.size.symm

theorem grows_meet (c : Call) (e : Endpoint) (n : Network) : Grows n (n.meet e c).2 := by
  simp [Grows]

theorem grows_connect (host : Host) (n : Network) : Grows n (n.connect host).2 := by
  unfold connect Grows
  split
  · exact Nat.le_refl _
  · dsimp only
    split
    · simp
    · exact Nat.le_refl _

end Network

theorem Routine.Steps.grows {ℓ κ α : Type} {r : NetRoutine ℓ κ α} (h : r.Steps Network.Keeps) :
    r.Steps Network.Grows :=
  h.mono fun _ _ hk => hk.grows

namespace Calls
open Network Routine
variable {ℓ κ : Type}

theorem steps_connect (host : Host) :
    (connect host : NetRoutine ℓ κ (Except Error Handle)).Steps Grows :=
  steps_onHost (grows_meet _ _) (grows_connect host)

theorem steps_updateConnection (h : Handle) (f : Connection → Connection) :
    (change fun _ n => n.updateConnection h f : NetRoutine ℓ κ Unit).Steps Grows :=
  steps_change fun _ n => by simp [Grows]

theorem steps_close (h : Handle) : (close h : NetRoutine ℓ κ Unit).Steps Grows :=
  steps_updateConnection h _

end Calls

/-- What the session's lock protects. -/
def Session.core (s : Session) : Session :=
  { s with
    outage := { s.outage with queries := 0 }
    retryLoop := {}
    pingLoop := {}
    reconnecting := false
    closed := false
    users := 0
    journal := [] }

/-- The connections of a session and how it may use them. -/
def Session.route (s : Session) :
    Topology × Options × Option Handle × Option Handle × Active :=
  (s.topology, s.options, s.primary, s.secondary, s.active)

theorem Session.fields_of_route {s s' : Session} (h : s'.route = s.route) :
    s'.topology = s.topology ∧ s'.options = s.options ∧ s'.primary = s.primary ∧
      s'.secondary = s.secondary ∧ s'.active = s.active := by
  simpa only [Session.route, Prod.mk.injEq] using h

theorem Session.current_of_route {s s' : Session} (h : s'.route = s.route) :
    s'.current = s.current := by
  obtain ⟨-, -, hprimary, hsecondary, hactive⟩ := Session.fields_of_route h
  rw [Session.current, Session.current, hprimary, hsecondary, hactive]

theorem Session.of_core {β : Type} (f : Session → β) (hf : ∀ s : Session, f s.core = f s)
    {s s' : Session} (h : s'.core = s.core) : f s' = f s := by
  rw [← hf s', h, hf]

theorem Session.core_countQuery (s : Session) :
    ({ s with outage := s.outage.countQuery } : Session).core = s.core := by
  simp only [Session.core, Outage.countQuery]
  split <;> rfl

theorem Session.route_of_core {s s' : Session} (h : s'.core = s.core) : s'.route = s.route :=
  Session.of_core Session.route (fun _ => rfl) h

theorem Session.policy_of_core {s s' : Session} (h : s'.core = s.core) :
    s'.policy = s.policy :=
  Session.of_core Session.policy (fun _ => rfl) h

theorem Session.current_of_core {s s' : Session} (h : s'.core = s.core) :
    s'.current = s.current :=
  Session.of_core Session.current (fun _ => rfl) h

theorem Session.topology_of_core {s s' : Session} (h : s'.core = s.core) :
    s'.topology = s.topology :=
  Session.of_core (·.topology) (fun _ => rfl) h

theorem Session.options_of_core {s s' : Session} (h : s'.core = s.core) : s'.options = s.options :=
  Session.of_core (·.options) (fun _ => rfl) h

theorem Session.primary_of_core {s s' : Session} (h : s'.core = s.core) : s'.primary = s.primary :=
  Session.of_core (·.primary) (fun _ => rfl) h

theorem Session.secondary_of_core {s s' : Session} (h : s'.core = s.core) :
    s'.secondary = s.secondary :=
  Session.of_core (·.secondary) (fun _ => rfl) h

def Session.syncs (s : Session) : List (Handle × Handle) :=
  s.journal.filterMap fun
    | .sync source dest => some (source, dest)
    | _ => none

namespace Desk

/-- What may happen to a session while someone else holds its lock. -/
structure SameCore (d d' : Desk) : Prop where
  core : d'.session.core = d.session.core
  syncs : d'.session.syncs = d.session.syncs
  grows : d.network.Grows d'.network

def Unsent (d d' : Desk) : Prop :=
  ∀ h op, d'.session.journal ≠ .invoke h op :: d.session.journal

/-- Neither a change of the routing nor an operation that is sent. -/
structure CoreUnsent (d d' : Desk) : Prop extends SameCore d d' where
  unsent : Unsent d d'

theorem SameCore.refl (d : Desk) : SameCore d d := ⟨rfl, rfl, Nat.le_refl _⟩

theorem Unsent.of_eq {d d' : Desk} (h : d'.session.journal = d.session.journal) : Unsent d d' := by
  intro c op hj
  rw [h] at hj
  exact List.cons_ne_self _ _ hj.symm

theorem CoreUnsent.of_core {d d' : Desk} (hc : d'.session.core = d.session.core)
    (hj : d'.session.journal = d.session.journal) (hn : d.network.Grows d'.network) :
    CoreUnsent d d' :=
  ⟨⟨hc, by rw [Session.syncs, Session.syncs, hj], hn⟩, .of_eq hj⟩

theorem CoreUnsent.refl (d : Desk) : CoreUnsent d d := .of_core rfl rfl (Nat.le_refl _)

/-- The slots stay as they are, and nothing is carried over. -/
structure SameRoute (d d' : Desk) : Prop where
  route : d'.session.route = d.session.route
  syncs : d'.session.syncs = d.session.syncs
  grows : d.network.Grows d'.network

structure RouteUnsent (d d' : Desk) : Prop extends SameRoute d d' where
  unsent : Unsent d d'

theorem SameCore.sameRoute {d d' : Desk} (h : SameCore d d') : SameRoute d d' :=
  ⟨Session.route_of_core h.core, h.syncs, h.grows⟩

theorem CoreUnsent.routeUnsent {d d' : Desk} (h : CoreUnsent d d') : RouteUnsent d d' :=
  ⟨h.toSameCore.sameRoute, h.unsent⟩

theorem RouteUnsent.of_eq {d d' : Desk} (hr : d'.session.route = d.session.route)
    (hj : d'.session.journal = d.session.journal) (hn : d.network.Grows d'.network) :
    RouteUnsent d d' :=
  ⟨⟨hr, by rw [Session.syncs, Session.syncs, hj], hn⟩, .of_eq hj⟩

end Desk

namespace Act
open Desk Routine

theorem steps_session : session.Steps CoreUnsent := steps_read fun d => .refl d

theorem steps_onNetwork {α : Type} {r : NetRoutine Unit Errand α} (h : r.Steps Network.Grows) :
    (onNetwork r).Steps CoreUnsent :=
  Steps.embed (fun _ _ hg => .of_core rfl rfl hg) h

theorem steps_updateNow {f : Nat → Session → Session} (hc : ∀ now s, (f now s).core = s.core)
    (hj : ∀ now s, (f now s).journal = s.journal) : (updateNow f).Steps CoreUnsent :=
  steps_change fun now d => .of_core (hc now d.session) (hj now d.session) (Nat.le_refl _)

theorem steps_updateBlacklist (f : Nat → Endpoint → Blacklist → Blacklist) (h : Handle) :
    (updateBlacklist f h).Steps CoreUnsent :=
  steps_change fun _ d => .of_core rfl rfl (by simp [Network.Grows])

theorem steps_inTransaction (h : Option Handle) : (inTransaction h).Steps CoreUnsent :=
  steps_read fun d => .refl d

theorem steps_answering (h : Option Handle) : (answering h).Steps CoreUnsent := by
  cases h with
  | none => trivial
  | some h =>
    refine (steps_onNetwork (Calls.keeps_ping h).grows).bind fun x => ?_
    rcases x with e | (_ | _) <;> trivial

theorem steps_retire (old : Option Handle) (h : Handle) : (retire old h).Steps CoreUnsent :=
  steps_forM fun c => steps_onNetwork (Calls.steps_close c)

theorem steps_armRetry (delay : Nat) : (armRetry delay).Steps CoreUnsent := by
  refine (steps_transact fun _ d => ?_).bind fun armed => steps_forM fun g => trivial
  cases hr : (if d.session.closed then none else d.session.retryLoop.arm?) with
  | none => exact .refl d
  | some r => exact .of_core rfl rfl (Nat.le_refl _)

theorem steps_touchPing : touchPing.Steps CoreUnsent := by
  refine (steps_transact fun _ d => ?_).bind fun armed => steps_forM fun g => trivial
  dsimp only
  split
  · exact .refl d
  · exact .of_core rfl rfl (Nat.le_refl _)

theorem steps_updateOutage (f : Nat → Outage → Outage) : (updateOutage f).Steps RouteUnsent :=
  steps_change fun _ _ => .of_eq rfl rfl (Nat.le_refl _)

theorem steps_markPrimary : markPrimary.Steps RouteUnsent :=
  steps_transact fun _ _ => .of_eq rfl rfl (Nat.le_refl _)

theorem steps_markSecondary : markSecondary.Steps RouteUnsent :=
  steps_transact fun _ _ => .of_eq rfl rfl (Nat.le_refl _)

theorem routeUnsent_of_coreUnsent {α : Type} {r : Act α} (h : r.Steps CoreUnsent) :
    r.Steps RouteUnsent :=
  h.mono fun _ _ hs => hs.routeUnsent

theorem steps_failPrimary (h : Handle) : (failPrimary h).Steps RouteUnsent := by
  refine steps_markPrimary.bind fun fresh => ?_
  split
  · exact routeUnsent_of_coreUnsent (steps_updateBlacklist _ h)
  · trivial

theorem steps_failSecondary (h : Handle) : (failSecondary h).Steps RouteUnsent := by
  refine steps_markSecondary.bind fun fresh => ?_
  split
  · exact routeUnsent_of_coreUnsent (steps_updateBlacklist _ h)
  · trivial

theorem steps_recordFailure (failed : Handle) (op : Option Operation) :
    (recordFailure failed op).Steps RouteUnsent := by
  refine steps_markPrimary.bind fun fresh => ?_
  dsimp only
  split
  · exact steps_when (steps_updateOutage _)
      (routeUnsent_of_coreUnsent (steps_updateBlacklist _ failed))
  · trivial

theorem steps_primaryRecovered (h : Handle) : (primaryRecovered h).Steps RouteUnsent :=
  (steps_updateOutage _).bind fun _ => routeUnsent_of_coreUnsent (steps_updateBlacklist _ h)

theorem steps_secondaryRecovered (h : Handle) : (secondaryRecovered h).Steps RouteUnsent :=
  (steps_updateOutage _).bind fun _ => routeUnsent_of_coreUnsent (steps_updateBlacklist _ h)

section Found
variable {ok : Desk → Desk → Prop}

/-- All that is done with a connection that is found is allowed. -/
structure Finds (ok : Desk → Desk → Prop) : Prop where
  stay : ∀ d, ok d d
  carry : ∀ a b, (trySync a b).Steps ok
  settle : ∀ h f, (onNetwork (change fun _ n => n.updateConnection h f)).Steps ok
  tell : ∀ h, (onNetwork (Carryover.setReadOnly h true)).Steps ok
  close : ∀ h, (onNetwork (Calls.close h)).Steps ok
  primary : ∀ d h a, ok d
    ⟨{ d.session with
        primary := some h, active := a, outage := d.session.outage.resetPrimary }, d.network⟩
  secondary : ∀ d h a, ok d
    ⟨{ d.session with
        secondary := some h, active := a, outage := d.session.outage.resetSecondary }, d.network⟩

theorem Finds.retires (hok : Finds ok) (old : Option Handle) (h : Handle) :
    (retire old h).Steps ok :=
  steps_forM fun c => hok.close c

theorem Finds.primarySingle (hok : Finds ok) (h : Handle) : (foundPrimarySingle h).Steps ok := by
  refine (steps_read hok.stay).bind fun s => ?_
  refine (steps_forM fun old => hok.carry old h).bind fun _ => ?_
  have hlast : (do
      update fun s =>
        { s with primary := some h, active := .primary, outage := s.outage.resetPrimary }
      retire s.primary h).Steps ok :=
    (steps_change fun _ d => hok.primary d h _).bind fun _ => hok.retires _ h
  dsimp only
  split
  · exact (hok.settle h _).bind fun _ => (hok.tell h).discard.bind fun _ => hlast
  · exact hlast

theorem Finds.primaryReplicated (hok : Finds ok) (h : Handle) :
    (foundPrimaryReplicated h).Steps ok := by
  refine (steps_read hok.stay).bind fun s => ?_
  refine steps_when (steps_forM fun c => hok.carry c h) ?_
  exact (steps_change fun _ d => hok.primary d h _).bind fun _ => hok.retires _ h

theorem Finds.replicaReplicated (hok : Finds ok) (h : Handle) :
    (foundReplicaReplicated h).Steps ok := by
  refine (steps_read hok.stay).bind fun s => ?_
  refine steps_when (steps_forM fun c => hok.carry c h) ?_
  exact (steps_change fun _ d => hok.secondary d h _).bind fun _ => hok.retires _ h

theorem Finds.found (hok : Finds ok) (role : Role) (h : Handle) : (found role h).Steps ok := by
  have hreplica : (foundReplica h).Steps ok := by
    refine (steps_read hok.stay).bind fun s => ?_
    split
    · exact hok.close h
    · exact hok.replicaReplicated h
  cases role with
  | primary =>
    refine (steps_read hok.stay).bind fun s => ?_
    split
    · exact hok.primarySingle h
    · exact hok.primaryReplicated h
  | replica => exact hreplica
  | unset => exact hreplica

end Found

end Act
end Failover
