import Failover.Config
import Failover.Proofs.Office.Handover
import Failover.Proofs.Session.OpeningOutcome

/-!
What it means to be accepted. A configuration that breaks no rule opens a session wherever its hosts
are up, whatever they serve as, unless it wants one writer and declares that no host can be it.
-/
namespace Failover
open Desk Routine

namespace Config
variable {c : Config}

theorem flaw?_of_validate (h : c.validate = .ok c) : c.flaw? = none := by
  unfold validate at h
  split at h
  · cases h
  · assumption

theorem ite_some_eq_none {α : Type} {p : Prop} [Decidable p] {a : α} {o : Option α} :
    (if p then some a else o) = none ↔ ¬p ∧ o = none := by
  by_cases hp : p <;> simp [hp]

/-- No rule is broken when each of them holds. -/
theorem flaw?_eq_none_iff : c.flaw? = none ↔
    c.hosts ≠ [] ∧ (∀ h ∈ c.hosts, hostFlaw? h = none) ∧ c.connectTimeoutMs ≠ 0 ∧
      (c.mode = .replication → c.topology.hosts.any Host.mayBePrimary = true) ∧
      c.failover.flaw? = none ∧ c.logLevel ∈ ["error", "warn", "info", "debug", "trace"] ∧
      c.logFormat ∈ ["json", "text"] := by
  unfold flaw?
  rw [ite_some_eq_none, Option.or_eq_none_iff, ite_some_eq_none, ite_some_eq_none,
    Option.or_eq_none_iff, ite_some_eq_none, ite_some_eq_none, List.findSome?_eq_none_iff,
    Option.map_eq_none_iff]
  simp only [List.isEmpty_iff, not_and, Bool.not_eq_false, not_not, and_true, ne_eq]

theorem validate_of_flaw? (h : c.flaw? = none) : c.validate = .ok c := by
  rw [validate, h]

theorem hosts_of_accepted (h : c.validate = .ok c) : c.hosts ≠ [] :=
  (flaw?_eq_none_iff.1 (flaw?_of_validate h)).1

theorem options_of_accepted (h : c.validate = .ok c) : c.failover.flaw? = none := by
  obtain ⟨-, -, -, -, hoptions, -⟩ := flaw?_eq_none_iff.1 (flaw?_of_validate h)
  exact hoptions

/-- One writer is wanted, and none of the hosts may be it. -/
def Writerless (c : Config) : Prop := c.mode = .masterOnly ∧ ∀ h ∈ c.hosts, h.role = .replica

instance (c : Config) : Decidable c.Writerless := inferInstanceAs (Decidable (_ ∧ _))

end Config

namespace Network
variable {n : Network} {mode : Mode} {hosts : List Host}

theorem role?_of_up {h : Host} (hup : n.cluster.isUp h.endpoint = true) :
    ∃ s : Server, n.role? mode h =
      some (if mode.discoversRoles then if s.writable then .primary else .replica else h.role) := by
  obtain ⟨s, hs, hup⟩ := (Option.any_eq_true _ _).1 hup
  exact ⟨s, by simp [role?, hs, hup, Option.filter]⟩

theorem serves_of_up {h : Host} (hh : h ∈ hosts) (hup : n.cluster.isUp h.endpoint = true) :
    n.serves mode hosts .primary = true ∨ n.serves mode hosts .replica = true := by
  have hserves {role : Role}
      (hr : n.role? mode { h with role := mode.roleOf h.role } = some role) :
      n.serves mode hosts role = true :=
    List.any_eq_true.2 ⟨_, List.mem_map_of_mem hh, by simp [hr]⟩
  obtain ⟨s, hr⟩ := @role?_of_up n mode { h with role := mode.roleOf h.role } hup
  cases mode with
  | aurora =>
    cases hw : s.writable with
    | true => exact .inl (hserves (by simp [hr, hw, Mode.discoversRoles]))
    | false => exact .inr (hserves (by simp [hr, hw, Mode.discoversRoles]))
  | _ =>
    cases hd : h.role with
    | replica => exact .inr (hserves (hr.trans (by simp [hd, Mode.discoversRoles, Mode.roleOf])))
    | _ => exact .inl (hserves (hr.trans (by simp [hd, Mode.discoversRoles, Mode.roleOf])))

theorem serves_primary_iff (hup : ∀ h ∈ hosts, n.cluster.isUp h.endpoint = true) :
    n.serves .masterOnly hosts .primary = true ↔ ∃ h ∈ hosts, h.role ≠ .replica := by
  unfold serves Topology.ofHosts
  simp only [List.any_map, List.any_eq_true, Function.comp]
  refine exists_congr fun h => and_congr_right fun hh => ?_
  obtain ⟨s, hr⟩ := @role?_of_up n .masterOnly { h with role := Mode.masterOnly.roleOf h.role }
    (hup h hh)
  rw [hr]
  cases h.role <;> simp [Mode.discoversRoles, Mode.roleOf]

end Network

namespace Config
variable {c : Config} {n : Network}

/-- Whether a session opens, where every host is up. -/
theorem opening_of_up (hhosts : c.hosts ≠ [])
    (hup : ∀ h ∈ c.hosts, n.cluster.isUp h.endpoint = true) :
    c.mode.policy.opening (n.serves c.mode c.hosts .primary) (n.serves c.mode c.hosts .replica) =
      if c.Writerless then .error (.noHostFound ⟨true, false⟩) else .ok () := by
  by_cases hmode : c.mode = .masterOnly
  · have hserves := Network.serves_primary_iff hup
    rw [hmode]
    by_cases hnone : ∀ h ∈ c.hosts, h.role = .replica
    · have hlost : n.serves .masterOnly c.hosts .primary = false := by
        rw [Bool.eq_false_iff]
        intro hp
        obtain ⟨h, hh, hr⟩ := hserves.1 hp
        exact hr (hnone h hh)
      rw [if_pos ⟨hmode, hnone⟩, hlost]
      rfl
    · have hfound : n.serves .masterOnly c.hosts .primary = true := hserves.2 (by simpa using hnone)
      rw [if_neg (fun hw => hnone hw.2), hfound]
      rfl
  · have hpolicy : c.mode.policy = .replicated := by
      simp [Mode.policy, Mode.hasReplicas, hmode]
    obtain ⟨h, hh⟩ := List.exists_mem_of_ne_nil _ hhosts
    rw [if_neg (fun hw => hmode hw.1), hpolicy]
    have hserves : n.serves c.mode c.hosts .primary = true ∨
        n.serves c.mode c.hosts .replica = true :=
      Network.serves_of_up hh (hup h hh)
    rcases hserves with hp | hr
    · simp [Policy.opening, hp]
    · simp [Policy.opening, hr]

end Config

namespace Act
variable {others : Desk → Desk → Prop} {t t' : List (Change Desk)} {d d' : Desk}

theorem initialConnect_of_connect {x : Except Error Unit} (hvalid : d.session.options.flaw? = none)
    (hhosts : d.session.topology.hosts ≠ []) (hplay : connect.Plays others t d x t' d') :
    ∃ now t₁ d₁, initialConnect.Plays others (⟨true, now, d, d⟩ :: t) d x t₁ d₁ := by
  obtain ⟨s, t₁, d₁, hread, hplay⟩ := plays_bind.1 hplay
  obtain ⟨now, rfl, rfl, rfl⟩ := plays_read.1 hread
  rw [hvalid] at hplay
  simp only [List.isEmpty_iff, hhosts, if_false] at hplay
  obtain ⟨y, t₂, d₂, hinit, hplay⟩ := plays_bind.1 hplay
  cases y with
  | error e =>
    obtain ⟨rfl, -, -⟩ := plays_pure.1 hplay
    exact ⟨now, t₂, d₂, hinit⟩
  | ok _ =>
    obtain ⟨_, t₃, d₃, -, hplay⟩ := plays_bind.1 hplay
    obtain ⟨rfl, -, -⟩ := plays_pure.1 hplay
    exact ⟨now, t₂, d₂, hinit⟩

end Act

namespace Config

/-- A configuration that is accepted opens a session wherever its hosts are up, whatever their
servers serve as, whatever is left out and whatever is drawn; unless it is one without a writer,
with which no session ever opens. -/
theorem accepted_opens {c : Config} {n : Network} (registry : Registry)
    (hvalid : c.validate = .ok c) (hcalm : n.Calm)
    (hup : ∀ h ∈ c.hosts, n.cluster.isUp h.endpoint = true) :
    (∃ x t d, Act.connect.Plays Undisturbed []
      ⟨Session.unopened c.topology c.failover registry, n⟩ x t d) ∧
    ∀ x t d, Act.connect.Plays Undisturbed []
        ⟨Session.unopened c.topology c.failover registry, n⟩ x t d →
      x = if c.Writerless then .error (.noHostFound ⟨true, false⟩) else .ok () := by
  refine ⟨exists_plays _ _ _ _, fun x t d hplay => ?_⟩
  have hhosts : c.topology.hosts ≠ [] := by
    simpa [topology, Topology.ofHosts] using hosts_of_accepted hvalid
  obtain ⟨now, t₁, d₁, hinit⟩ :=
    Act.initialConnect_of_connect (options_of_accepted hvalid) hhosts hplay
  have hheld := Held.of_order (Act.order_unopened (ς := .everyone) c.topology c.failover
    registry n)
  have hx := (Act.launched_initialConnect hcalm (.refl n) rfl (hheld.look now) hinit).1
  rw [hx, opening_of_up (hosts_of_accepted hvalid) hup]

/-- One writer is wanted of a replica and of a host that does not say what it is, which is left out
at first. -/
theorem accepted_opens_writer :
    let c : Config :=
      { mode := .masterOnly, hosts := [⟨⟨"mock-0", 3306⟩, .unset⟩, ⟨⟨"mock-1", 3307⟩, .replica⟩] }
    c.validate = .ok c ∧ ∃ t d, Act.connect.Plays Undisturbed []
      ⟨Session.unopened c.topology c.failover .processWide,
        { cluster := .ofHosts (Cluster.replicationHosts 1),
          processBlacklist := ⟨[(⟨"mock-0", 3306⟩, 0)]⟩ }⟩ (.ok ()) t d := by
  intro c
  have hvalid : c.validate = .ok c := by decide +kernel
  have hcalm : ({ cluster := .ofHosts (Cluster.replicationHosts 1),
                  processBlacklist := ⟨[(⟨"mock-0", 3306⟩, 0)]⟩ } : Network).Calm := by
    intro x hd
    cases hd
  obtain ⟨⟨x, t, d, hplay⟩, hall⟩ := accepted_opens .processWide hvalid hcalm (by decide +kernel)
  have hwriter : ¬c.Writerless := by decide +kernel
  have hx := hall x t d hplay
  rw [if_neg hwriter] at hx
  subst hx
  exact ⟨hvalid, t, d, hplay⟩

end Config

namespace Scenario

/-- One writer is wanted of two replicas. The configuration is accepted and both servers are up, but
no session is opened. -/
theorem writerless_accepted :
    let c : Config :=
      { mode := .masterOnly, hosts := [⟨⟨"mock-0", 3306⟩, .replica⟩, ⟨⟨"mock-1", 3307⟩, .replica⟩] }
    let stage := Setting.stage { hosts := Cluster.replicationHosts 1, sharesBlacklist := true }
    c.validate = .ok c ∧ (∀ h ∈ c.hosts, stage.network.cluster.isUp h.endpoint = true) ∧
      (Act.connect.alone 0 []
        ⟨Session.unopened c.topology c.failover .processWide, stage.network⟩).1 =
          .error (.noHostFound ⟨true, false⟩) ∧
      (stage.after [.connectConfig "s" (some (c.hosts.map .host)) c]).sessions = [] := by
  decide +kernel

end Scenario
end Failover
