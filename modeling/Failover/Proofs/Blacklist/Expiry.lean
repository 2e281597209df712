import Failover.Proofs.Search.Course
import Failover.Session.Found
import Mathlib.Data.Set.Card

/-!
How long a server is left out. What a blacklist holds is told by the history of the edits that all
sessions made to it, and what a search then leaves out follows from that history and from the time
at which it starts. A history has the latest edit first.
-/
namespace Failover

namespace Blacklist

inductive Edit where
  | add (e : Endpoint)
  | remove (e : Endpoint)
  | prune (lifetime : Nat)
  | clear
  deriving DecidableEq

def edit (time : Int) (b : Blacklist) : Edit → Blacklist
  | .add e => b.add e time
  | .remove e => b.remove e
  | .prune lifetime => b.prune time lifetime
  | .clear => {}

def replay : List (Int × Edit) → Blacklist
  | [] => {}
  | x :: earlier => (replay earlier).edit x.1 x.2

/-- No edit was made before one that the history holds to be earlier. -/
def Chronological (h : List (Int × Edit)) : Prop := h.Pairwise fun x y => y.1 ≤ x.1

/-- The edit ends the exclusion of a server that was added at a time, or replaces it. -/
def Ends (e : Endpoint) (added : Int) : Int × Edit → Prop
  | (_, .add e') => e' = e
  | (_, .remove e') => e' = e
  | (time, .prune lifetime) => lifetime ≤ time - added
  | (_, .clear) => True

/-- The server was last added at that time, and nothing has ended its exclusion since. -/
def Excluded (h : List (Int × Edit)) (e : Endpoint) (added : Int) : Prop :=
  ∃ later earlier, h = later ++ (added, .add e) :: earlier ∧ ∀ x ∈ later, ¬Ends e added x

theorem excluded_cons (x : Int × Edit) (h : List (Int × Edit)) (e : Endpoint) (added : Int) :
    Excluded (x :: h) e added ↔
      x = (added, .add e) ∨ (Excluded h e added ∧ ¬Ends e added x) := by
  constructor
  · intro hx
    obtain ⟨later, earlier, he, hlater⟩ := hx
    rcases List.cons_eq_append_iff.1 he with ⟨rfl, he⟩ | ⟨later, rfl, rfl⟩
    · exact .inl (List.cons.inj he).1
    · exact .inr ⟨⟨later, earlier, rfl, fun y hy => hlater y (List.mem_cons_of_mem _ hy)⟩,
        hlater _ List.mem_cons_self⟩
  · intro hx
    rcases hx with rfl | ⟨⟨later, earlier, rfl, hlater⟩, hx⟩
    · exact ⟨[], h, rfl, nofun⟩
    · refine ⟨x :: later, earlier, rfl, fun y hy => ?_⟩
      rcases List.mem_cons.1 hy with rfl | hy
      · exact hx
      · exact hlater y hy

theorem Excluded.unique {h : List (Int × Edit)} {e : Endpoint} {added added' : Int}
    (hx : Excluded h e added) (hx' : Excluded h e added') : added = added' := by
  induction h with
  | nil =>
    obtain ⟨later, earlier, he, -⟩ := hx
    simp at he
  | cons x h ih =>
    rw [excluded_cons] at hx hx'
    rcases hx with rfl | ⟨hx, hends⟩
    · rcases hx' with he | ⟨-, hends⟩
      · simpa using he
      · exact (hends rfl).elim
    · rcases hx' with rfl | ⟨hx', -⟩
      · exact (hends rfl).elim
      · exact ih hx hx'

theorem Excluded.mem {h : List (Int × Edit)} {e : Endpoint} {added : Int}
    (hx : Excluded h e added) : (added, Edit.add e) ∈ h := by
  obtain ⟨later, earlier, rfl, -⟩ := hx
  simp

theorem mem_add (b : Blacklist) (e : Endpoint) (time : Int) (x : Endpoint × Int) :
    x ∈ (b.add e time).entries ↔ x = (e, time) ∨ (x ∈ b.entries ∧ x.1 ≠ e) := by
  simp [add, remove, or_comm]

/-- The entries are the exclusions that have not ended. -/
theorem mem_replay {h : List (Int × Edit)} (hc : Chronological h) (e : Endpoint) (added : Int) :
    (e, added) ∈ (replay h).entries ↔ Excluded h e added := by
  induction h with
  | nil => simp [replay, Excluded]
  | cons x h ih =>
    obtain ⟨hold, hrest⟩ := List.pairwise_cons.1 hc
    obtain ⟨time, x⟩ := x
    rw [excluded_cons, ← ih hrest, replay]
    cases x with
    | add e' =>
      simp only [edit, mem_add, Ends, Prod.mk.injEq, Edit.add.injEq, ne_eq]
      tauto
    | remove e' =>
      simp only [edit, remove, List.mem_filter, bne_iff_ne, Ends, Prod.mk.injEq, reduceCtorEq,
        and_false, false_or]
      tauto
    | clear => simp [edit, Ends]
    | prune lifetime =>
      simp only [edit, prune, List.mem_filter, isFresh, Ends, decide_eq_true_eq, Prod.mk.injEq,
        reduceCtorEq, and_false, false_or]
      refine and_congr_right fun hm => ?_
      have hle : added ≤ time := hold _ ((ih hrest).1 hm).mem
      omega

theorem contains_iff (b : Blacklist) (e : Endpoint) :
    b.contains e = true ↔ ∃ added, (e, added) ∈ b.entries := by
  simp [contains]

theorem contains_replay {h : List (Int × Edit)} (hc : Chronological h) (e : Endpoint) :
    (replay h).contains e = true ↔ ∃ added, Excluded h e added := by
  simp only [contains_iff, mem_replay hc]

theorem nodup_replay (h : List (Int × Edit)) : ((replay h).entries.map (·.1)).Nodup := by
  induction h with
  | nil => simp [replay]
  | cons x h ih =>
    obtain ⟨time, x⟩ := x
    have hkept (p : Endpoint × Int → Bool) : (((replay h).entries.filter p).map (·.1)).Nodup :=
      (List.filter_sublist.map _).nodup ih
    cases x with
    | add e =>
      simp only [replay, edit, add, remove, List.map_append, List.map_cons, List.map_nil]
      apply List.Nodup.append (hkept _) (List.nodup_singleton e)
      simp
    | remove e => exact hkept _
    | prune lifetime => exact hkept _
    | clear => simp [replay, edit]

/-- A pruning answers with the number of servers that it evicts. -/
theorem pruned_eq_ncard {b : Blacklist} (hb : (b.entries.map (·.1)).Nodup) (now : Int)
    (lifetime : Nat) :
    b.pruned now lifetime =
      {e | b.contains e = true ∧ (b.prune now lifetime).contains e = false}.ncard := by
  let stale := (b.entries.filter fun x => !isFresh now lifetime x).map (·.1)
  have hstale : {e | b.contains e = true ∧ (b.prune now lifetime).contains e = false} =
      (stale.toFinset : Set Endpoint) := by
    ext e
    simp only [Set.mem_ofPred_eq, List.coe_toFinset, stale, List.mem_map, List.mem_filter,
      contains_iff, ← Bool.not_eq_true, prune]
    constructor
    · intro hd
      obtain ⟨⟨added, hm⟩, hnot⟩ := hd
      refine ⟨(e, added), ⟨hm, ?_⟩, rfl⟩
      rw [Bool.not_eq_true', ← Bool.not_eq_true]
      exact fun hf => hnot ⟨added, hm, hf⟩
    · intro hd
      obtain ⟨⟨_, added⟩, ⟨hm, hf⟩, rfl⟩ := hd
      refine ⟨⟨added, hm⟩, fun hd => ?_⟩
      obtain ⟨added', hm', hf'⟩ := hd
      -- there is one entry for the server, so that the stale one is the fresh one
      have heq := List.inj_on_of_nodup_map hb hm hm' rfl
      rw [heq, hf'] at hf
      exact Bool.false_ne_true hf
  have hnodup : stale.Nodup := (List.filter_sublist.map _).nodup hb
  have hlen : b.entries.length = (b.prune now lifetime).entries.length + stale.length := by
    rw [List.length_map]
    exact List.length_eq_length_filter_add (isFresh now lifetime)
  rw [hstale, Set.ncard_coe_finset, List.toFinset_card_of_nodup hnodup, pruned]
  omega

theorem contains_prune_replay {h : List (Int × Edit)} (hc : Chronological h) {now : Int}
    (hnow : ∀ x ∈ h, x.1 ≤ now) (lifetime : Nat) (e : Endpoint) :
    ((replay h).prune now lifetime).contains e = true ↔
      ∃ added, Excluded h e added ∧ now - added < lifetime := by
  have hall : Chronological ((now, .prune lifetime) :: h) := List.pairwise_cons.2 ⟨hnow, hc⟩
  have hx := contains_replay hall e
  simpa [excluded_cons, Ends, replay, edit] using hx

end Blacklist

namespace Search
variable {σ ℓ κ : Type} {others : σ → σ → Prop} {p : Prober σ ℓ κ}

/-- The search goes over the hosts that are not left out and then, if something is still needed,
over those that are. -/
def TwoPasses (others : σ → σ → Prop) (p : Prober σ ℓ κ) (out : Endpoint → Bool) (hosts : List Host)
    (needs : Needs) (t : List (Change σ)) (s : σ) (o : Outcome) (t' : List (Change σ)) (s' : σ) :
    Prop :=
  ∃ first second o₁ t₁ s₁,
    Course others p first t s t₁ s₁ ∧
    Drained ((hosts.filter fun h => !out h.endpoint).filter needs.accepts) { needs } first o₁ ∧
    Course others p second t₁ s₁ t' s' ∧
    Drained ((hosts.filter fun h => out h.endpoint).filter o₁.needs.accepts) o₁ second o

theorem twoPasses_of_plays (hp : Fair p) {b : Blacklist} {hosts : List Host} {needs : Needs}
    {o : Outcome} {t t' : List (Change σ)} {s s' : σ}
    (hplay : (twoPass p b hosts needs).Plays others t s o t' s') :
    TwoPasses others p b.contains hosts needs t s o t' s' := by
  unfold twoPass at hplay
  rw [List.partition_eq_filter_filter] at hplay
  obtain ⟨o₁, t₁, s₁, hpass, hplay⟩ := Routine.plays_bind.1 hplay
  obtain ⟨first, hcourse, hfirst⟩ := drained_of_plays hp (Nat.le_refl _) hpass
  split at hplay
  · rename_i hdone
    obtain ⟨rfl, rfl, rfl⟩ := Routine.plays_pure.1 hplay
    refine ⟨first, [], o, t', s', hcourse, hfirst, .nil, .stop ?_⟩
    rcases Bool.or_eq_true_iff.1 hdone with hdone | hnone
    · exact .inr hdone
    · left
      rw [List.isEmpty_iff.1 hnone, List.filter_nil]
  · obtain ⟨second, hcourse', hsecond⟩ := drained_of_plays hp (Nat.le_refl _) hplay
    exact ⟨first, second, o₁, t₁, s₁, hcourse, hfirst, hcourse', hsecond⟩

end Search

namespace Act
open Blacklist Search

theorem fair_prober (s : Session) : Fair (prober s) :=
  fun size hsize => (Search.fair_prober s.topology.mode s.registry size hsize).embed

/-- A search prunes the session's blacklist at some time, and leaves out what is then on it. -/
theorem plays_search {others : Desk → Desk → Prop} {needs : Needs} {t t' : List (Change Desk)}
    {d d' : Desk} {o : Outcome} (hplay : (search needs).Plays others t d o t' d') :
    ∃ (now : Nat) (early late : List (Change Desk)) (d₁ d₂ : Desk),
      d₁.network = d.network ∧
      d₂.network = d₁.network.updateBlacklist d.session.registry
        (·.prune now (millis d.session.options.blacklistTimeoutSec)) ∧
      (twoPass (prober d.session) (d₂.network.blacklist d.session.registry) d.session.topology.hosts
        needs).Plays others (late ++ ⟨true, now, d₁, d₂⟩ :: early ++ t) d₂ o t' d' := by
  obtain ⟨_, t₁, s₁, hnote, hplay⟩ := Routine.plays_bind.1 hplay
  obtain ⟨noted, rfl, rfl⟩ := Routine.plays_change.1 hnote
  obtain ⟨_, t₂, s₂, hprune, hplay⟩ := Routine.plays_bind.1 hplay
  obtain ⟨now, rfl, rfl⟩ := Routine.plays_change.1 hprune
  obtain ⟨s, t₃, s₃, hsession, hplay⟩ := Routine.plays_bind.1 hplay
  obtain ⟨read, rfl, rfl, rfl⟩ := Routine.plays_read.1 hsession
  obtain ⟨b, t₄, s₄, hblacklist, hplay⟩ := Routine.plays_bind.1 hplay
  obtain ⟨looked, rfl, rfl, rfl⟩ := Routine.plays_read.1 hblacklist
  let d₁ : Desk := ⟨{ d.session with journal := .search needs :: d.session.journal }, d.network⟩
  let d₂ : Desk := ⟨d₁.session, d₁.network.updateBlacklist d.session.registry
    (·.prune now (millis d.session.options.blacklistTimeoutSec))⟩
  exact ⟨now, [⟨true, noted, d, d₁⟩], [⟨true, looked, d₂, d₂⟩, ⟨true, read, d₂, d₂⟩], d₁, d₂,
    rfl, rfl, hplay⟩

/-- A server is on a blacklist as long as nothing has ended its last exclusion, and a pruning counts
the servers that it evicts. When a session searches, its first pass leaves a server out if it has
been excluded for less than the session's timeout, and no other. -/
theorem search_spares_lapsed (h : List (Int × Edit)) (hc : Chronological h) :
    (∀ e, (replay h).contains e = true ↔ ∃ added, Excluded h e added) ∧
    (∀ now lifetime, (replay h).pruned now lifetime =
      {e | (replay h).contains e = true ∧
        ((replay h).prune now lifetime).contains e = false}.ncard) ∧
    ∀ (others : Desk → Desk → Prop) (needs : Needs) (t t' : List (Change Desk)) (d d' : Desk)
      (o : Outcome), d.network.blacklist d.session.registry = replay h →
      (search needs).Plays others t d o t' d' →
      ∃ (now : Nat) (early late : List (Change Desk)) (d₁ d₂ : Desk),
        d₂.network = d₁.network.updateBlacklist d.session.registry
          (·.prune now (millis d.session.options.blacklistTimeoutSec)) ∧
        ((∀ x ∈ h, x.1 ≤ now) → ∃ out : Endpoint → Bool,
          (∀ e added, Excluded h e added →
            (out e = true ↔ now - added < millis d.session.options.blacklistTimeoutSec)) ∧
          (∀ e, (∀ added, ¬Excluded h e added) → out e = false) ∧
          TwoPasses others (prober d.session) out d.session.topology.hosts needs
            (late ++ ⟨true, now, d₁, d₂⟩ :: early ++ t) d₂ o t' d') := by
  refine ⟨contains_replay hc, pruned_eq_ncard (nodup_replay h), ?_⟩
  intro others needs t t' d d' o hb hplay
  obtain ⟨now, early, late, d₁, d₂, hnetwork, hpruned, hpasses⟩ := plays_search hplay
  refine ⟨now, early, late, d₁, d₂, hpruned, fun hnow =>
    ⟨(d₂.network.blacklist d.session.registry).contains, ?_, ?_,
      twoPasses_of_plays (fair_prober _) hpasses⟩⟩
  all_goals
    rw [hpruned, hnetwork, Network.blacklist_updateBlacklist, hb]
  · intro e added hx
    rw [contains_prune_replay hc hnow]
    constructor
    · intro hd
      obtain ⟨added', hx', hyoung⟩ := hd
      rwa [hx.unique hx']
    · intro hyoung
      exact ⟨added, hx, hyoung⟩
  · intro e hnone
    rw [← Bool.not_eq_true, contains_prune_replay hc hnow]
    intro hd
    obtain ⟨added, hx, -⟩ := hd
    exact hnone added hx

/-- The primary was left out a minute before the clock's start, a replica at its start. -/
def outages : List (Int × Edit) :=
  [(0, .add ⟨"mock-1", 3307⟩), (-60000, .add ⟨"mock-0", 3306⟩), (-70000, .clear)]

/-- A session that leaves servers out for a minute. -/
def wary : Desk where
  session := {
    topology := ⟨.replication, (Cluster.replicationHosts 2).map (·.1)⟩
    options := { blacklistTimeoutSec := 60 }
    registry := .own }
  network := {
    cluster := Cluster.ofHosts (Cluster.replicationHosts 2)
    ownBlacklist := replay outages }

theorem search_spares_lapsed_wary :
    Chronological outages ∧ wary.network.blacklist wary.session.registry = replay outages ∧
    ∃ o t d, (search ⟨true, true⟩).Plays (fun d d' => d' = d) [] wary o t d ∧
      ∃ (now : Nat) (out : Endpoint → Bool) (t₁ : List (Change Desk)) (d₁ : Desk),
        out ⟨"mock-0", 3306⟩ = false ∧
        (out ⟨"mock-1", 3307⟩ = true ↔ now < 60000) ∧
        out ⟨"mock-2", 3308⟩ = false ∧
        TwoPasses (fun d d' => d' = d) (prober wary.session) out wary.session.topology.hosts
          ⟨true, true⟩ t₁ d₁ o t d := by
  have hc : Chronological outages := by
    unfold Chronological
    decide
  have hplay := Routine.plays_alone (fun d d' : Desk => d' = d) 0 (search ⟨true, true⟩) [] wary
  obtain ⟨-, -, hsearch⟩ := search_spares_lapsed outages hc
  obtain ⟨now, early, late, d₁, d₂, -, hpasses⟩ := hsearch _ _ _ _ _ _ _ rfl hplay
  obtain ⟨out, hyoung, hnever, hpasses⟩ := hpasses (by
    intro x hx
    simp only [outages, List.mem_cons, List.not_mem_nil, or_false] at hx
    rcases hx with rfl | rfl | rfl <;> simp)
  have hprimary : Excluded outages ⟨"mock-0", 3306⟩ (-60000) := by
    simp [outages, excluded_cons, Ends]
  have hreplica : Excluded outages ⟨"mock-1", 3307⟩ 0 := by
    simp [outages, excluded_cons]
  refine ⟨hc, rfl, _, _, _, hplay, now, out, _, d₂, ?_, ?_, ?_, hpasses⟩
  · rw [← Bool.not_eq_true, hyoung _ _ hprimary]
    simp [wary, millis]
  · rw [hyoung _ _ hreplica]
    simp [wary, millis]
  · refine hnever _ fun added hx => ?_
    have hm := hx.mem
    simp [outages] at hm

end Act
end Failover
