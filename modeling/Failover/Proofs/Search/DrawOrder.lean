import Failover.Proofs.Search.Course
import Mathlib.Data.Nat.Factorial.BigOperators
import Mathlib.Probability.Distributions.Uniform
import Mathlib.Probability.Independence.Basic

/-!
The order in which a pass tries its hosts while none of them is of use. The draws decide it, and
every order comes of one sequence of draws only; so no order is more likely than another.
-/
namespace Failover.Search
open Routine

section Dealing
variable {α β : Type} {pool : List α} {i : Nat} {is : List Nat}

/-- What draws take out of a pool, in that order. -/
def dealt (pool : List α) : List Nat → List α
  | [] => []
  | i :: is =>
    match swapRemove i pool with
    | none => []
    | some (x, rest) => x :: dealt rest is

/-- Draws that empty a pool of `n`: each is below the number of those that are left. -/
def Emptying (n : Nat) (is : List Nat) : Prop :=
  is.length = n ∧ ∀ k (hk : k < is.length), is[k] < n - k

theorem emptying_zero : Emptying 0 is ↔ is = [] := by
  constructor
  · intro h
    exact List.length_eq_zero_iff.1 h.1
  · intro h
    subst h
    exact ⟨rfl, nofun⟩

theorem emptying_succ {n : Nat} : Emptying (n + 1) (i :: is) ↔ i < n + 1 ∧ Emptying n is := by
  simp only [Emptying, List.length_cons, Nat.add_right_cancel_iff]
  constructor
  · intro h
    obtain ⟨hlen, hbelow⟩ := h
    refine ⟨hbelow 0 (Nat.succ_pos _), hlen, fun k hk => ?_⟩
    have hnext := hbelow (k + 1) (Nat.succ_lt_succ hk)
    rwa [Nat.add_sub_add_right] at hnext
  · intro h
    obtain ⟨hi, hlen, hbelow⟩ := h
    refine ⟨hlen, fun k hk => ?_⟩
    cases k with
    | zero => exact hi
    | succ k =>
      rw [Nat.add_sub_add_right]
      exact hbelow k (Nat.lt_of_succ_lt_succ hk)

theorem swapRemove_map (f : α → β) (i : Nat) (pool : List α) :
    swapRemove i (pool.map f) = (swapRemove i pool).map fun x => (f x.1, x.2.map f) := by
  unfold swapRemove
  rw [List.getElem?_map, List.getLast?_map]
  cases pool[i]? with
  | none => rfl
  | some x =>
    cases pool.getLast? with
    | none => rfl
    | some last => simp [List.map_set, List.map_dropLast]

theorem getElem?_of_swapRemove {x : α} {rest : List α} (he : swapRemove i pool = some (x, rest)) :
    pool[i]? = some x := by
  unfold swapRemove at he
  split at he
  · rename_i hx _
    cases he
    exact hx
  · cases he

theorem exists_swapRemove (hi : i < pool.length) :
    ∃ rest, swapRemove i pool = some (pool[i], rest) := by
  cases he : swapRemove i pool with
  | none => exact absurd hi (Nat.not_lt.2 (le_of_swapRemove he))
  | some taken =>
    obtain ⟨x, rest⟩ := taken
    rw [List.getElem?_eq_some_iff.1 (getElem?_of_swapRemove he) |>.2]
    exact ⟨rest, rfl⟩

theorem dealt_map (f : α → β) : dealt (pool.map f) is = (dealt pool is).map f := by
  induction is generalizing pool with
  | nil => rfl
  | cons i is ih =>
    unfold dealt
    rw [swapRemove_map]
    cases swapRemove i pool with
    | none => rfl
    | some taken => exact congrArg (f taken.1 :: ·) ih

theorem dealt_perm (h : Emptying pool.length is) : (dealt pool is).Perm pool := by
  induction is generalizing pool with
  | nil =>
    rw [List.length_eq_zero_iff.1 h.1.symm]
    exact .nil
  | cons i is ih =>
    obtain ⟨n, hn⟩ : ∃ n, pool.length = n + 1 := ⟨is.length, h.1.symm⟩
    rw [hn, emptying_succ] at h
    obtain ⟨rest, he⟩ := exists_swapRemove (hn ▸ h.1)
    have hrest : rest.length = n := by
      have := length_swapRemove he
      omega
    unfold dealt
    rw [he]
    exact ((ih (hrest ▸ h.2)).cons _).trans (swapRemove_perm he)

theorem emptying_of_perm (hlen : is.length = pool.length) (h : (dealt pool is).Perm pool) :
    Emptying pool.length is := by
  induction is generalizing pool with
  | nil => rw [← hlen, List.length_nil, emptying_zero]
  | cons i is ih =>
    cases he : swapRemove i pool with
    | none =>
      unfold dealt at h
      rw [he] at h
      rw [← h.nil_eq] at hlen
      cases hlen
    | some taken =>
      obtain ⟨x, rest⟩ := taken
      unfold dealt at h
      rw [he] at h
      have hrest := length_swapRemove he
      obtain ⟨hi, -⟩ := List.getElem?_eq_some_iff.1 (getElem?_of_swapRemove he)
      rw [← hrest] at hlen hi ⊢
      exact emptying_succ.2 ⟨hi, ih (Nat.succ_injective hlen)
        ((List.perm_cons x).1 (h.trans (swapRemove_perm he).symm))⟩

theorem eq_of_dealt {is' : List Nat} (hpool : pool.Nodup) (h : Emptying pool.length is)
    (h' : Emptying pool.length is') (heq : dealt pool is = dealt pool is') : is = is' := by
  induction is generalizing pool is' with
  | nil => exact (List.length_eq_zero_iff.1 (h'.1.trans h.1.symm)).symm
  | cons i is ih =>
    cases is' with
    | nil => cases h.1.trans h'.1.symm
    | cons i' is' =>
      obtain ⟨n, hn⟩ : ∃ n, pool.length = n + 1 := ⟨is.length, h.1.symm⟩
      rw [hn, emptying_succ] at h h'
      obtain ⟨rest, he⟩ := exists_swapRemove (hn ▸ h.1)
      obtain ⟨rest', he'⟩ := exists_swapRemove (hn ▸ h'.1)
      unfold dealt at heq
      rw [he, he'] at heq
      obtain ⟨hfirst, hothers⟩ := List.cons.inj heq
      have hi : i = i' := (hpool.getElem_inj_iff).1 hfirst
      subst hi
      cases he.symm.trans he'
      have hrest : rest.length = n := by
        have := length_swapRemove he
        omega
      have hnodup : rest.Nodup := (List.nodup_cons.1 ((swapRemove_perm he).nodup_iff.2 hpool)).2
      rw [ih hnodup (hrest ▸ h.2) (hrest ▸ h'.2) hothers]

theorem dealt_eq_iff {is' : List Nat} (hpool : pool.Nodup) (h : Emptying pool.length is)
    (hlen : is'.length = pool.length) : dealt pool is' = dealt pool is ↔ is' = is := by
  constructor
  · intro heq
    have h' : Emptying pool.length is' := emptying_of_perm hlen (heq ▸ dealt_perm h)
    exact eq_of_dealt hpool h' h heq
  · intro heq
    rw [heq]

theorem exists_dealt {xs : List α} (h : xs.Perm pool) :
    ∃ is, Emptying pool.length is ∧ dealt pool is = xs := by
  induction xs generalizing pool with
  | nil =>
    rw [h.nil_eq.symm]
    exact ⟨[], emptying_zero.2 rfl, rfl⟩
  | cons x xs ih =>
    obtain ⟨i, hi, rfl⟩ := List.getElem_of_mem (h.subset List.mem_cons_self)
    obtain ⟨rest, he⟩ := exists_swapRemove hi
    obtain ⟨is, his, hxs⟩ := ih ((List.perm_cons _).1 (h.trans (swapRemove_perm he).symm))
    rw [← length_swapRemove he]
    refine ⟨i :: is, emptying_succ.2 ⟨?_, his⟩, ?_⟩
    · rwa [length_swapRemove he]
    · unfold dealt
      rw [he, ← hxs]

/-- Each order of a pool comes of one sequence of draws. -/
theorem dealt_bijOn (hpool : pool.Nodup) :
    Set.BijOn (dealt pool) {is | Emptying pool.length is} {xs | xs.Perm pool} :=
  ⟨fun _ h => dealt_perm h, fun _ h _ h' => eq_of_dealt hpool h h', fun _ h => exists_dealt h⟩

end Dealing

open MeasureTheory ProbabilityTheory
open scoped ENNReal Nat

section Chance

theorem ofFn_eq_iff {n : Nat} {f : Fin n → Nat} {is : List Nat} (hlen : is.length = n) :
    List.ofFn f = is ↔ ∀ k : Fin n, f k = is.get (k.cast hlen.symm) := by
  constructor
  · intro h k
    subst h
    simp
  · intro h
    refine List.ext_getElem (by simp [hlen]) fun k hk _ => ?_
    rw [List.getElem_ofFn]
    exact h ⟨k, by simpa using hk⟩

theorem prod_chances (n : Nat) : ∏ k : Fin n, ((n - k : Nat) : ℝ≥0∞)⁻¹ = (n ! : ℝ≥0∞)⁻¹ := by
  rw [← ENNReal.prod_inv_distrib fun _ _ _ _ _ => .inr (ENNReal.natCast_ne_top _), ← Nat.cast_prod,
    Fin.prod_univ_eq_prod_range (fun k => n - k) n, ← Nat.descFactorial_eq_prod_range,
    Nat.descFactorial_self]

/-- Independent draws, each as likely to hit one of those that are left as another, put a pool into
each order with the same probability. -/
theorem measure_dealt {α Ω : Type} [MeasurableSpace Ω] {pool xs : List α} (hpool : pool.Nodup)
    {n : Nat} (hn : pool.length = n) {P : Measure Ω} {D : Fin n → Ω → Nat} (hindep : iIndepFun D P)
    (huniform : ∀ (k : Fin n) (i : Nat), i < n - k → P {ω | D k ω = i} = ((n - k : Nat) : ℝ≥0∞)⁻¹)
    (hxs : xs.Perm pool) :
    P {ω | dealt pool (List.ofFn fun k => D k ω) = xs} = (n ! : ℝ≥0∞)⁻¹ := by
  subst hn
  obtain ⟨is, his, rfl⟩ := exists_dealt hxs
  have hevent : {ω | dealt pool (List.ofFn fun k => D k ω) = dealt pool is} =
      ⋂ k ∈ Finset.univ, Set.preimage (D k) {is.get (k.cast his.1.symm)} := by
    ext ω
    simp only [Finset.mem_univ, Set.iInter_true, Set.mem_iInter]
    exact (dealt_eq_iff hpool his (by simp)).trans (ofFn_eq_iff his.1)
  rw [hevent, hindep.measure_inter_preimage_eq_mul Finset.univ fun k _ => trivial, ← prod_chances]
  exact Finset.prod_congr rfl fun k _ => huniform k _ (his.2 k (k.cast his.1.symm).2)

end Chance

section Passes
variable {σ ℓ κ : Type} {others : σ → σ → Prop} {p : Prober σ ℓ κ} {h : Host} {pool : List Host}
  {o o' : Outcome} {es : List Event} {needs : Needs}

/-- The draws, each with the number that it is below. -/
def draws (es : List Event) : List (Nat × Nat) :=
  es.filterMap fun
    | .draw size i => some (size, i)
    | _ => none

theorem draws_append (es es' : List Event) : draws (es ++ es') = draws es ++ draws es' :=
  List.filterMap_append

theorem contacts_append (es es' : List Event) :
    contacts (es ++ es') = contacts es ++ contacts es' := List.filterMap_append

theorem Tried.draws (ht : Tried h o es o') : draws es = [] := by
  cases ht <;> rfl

theorem handed_eq_nil (hf : Everywhere (Fitting needs) es) (hn : left needs es = needs) :
    handed es = [] := by
  refine List.eq_nil_iff_forall_not_mem.2 fun x hx => ?_
  obtain ⟨role, c⟩ := x
  obtain ⟨e, he, hsome⟩ := List.mem_filterMap.1 hx
  cases e with
  | found role' c' =>
    cases hsome
    obtain ⟨before, after, hsplit⟩ := List.append_of_mem he
    have hw : (left needs before).wants role = true := (hf.split hsplit).2.1
    have hstill : (left needs es).wants role = true := by
      rw [hn]
      exact ((wants_left needs before role).1 hw).1
    exact ((wants_left needs es role).1 hstill).2 c hx
  | _ => cases hsome

/-- A pass that hands nothing over draws until its pool is empty, and tries what it draws. -/
theorem Drawn.emptied (hd : Drawn pool o es o') (hworth : ∀ h ∈ pool, o.needs.accepts h = true)
    (hnone : handed es = []) :
    ∃ is, Emptying pool.length is ∧ draws es = is.mapIdx (fun k i => (pool.length - k, i)) ∧
      contacts es = dealt pool is := by
  induction hd with
  | @stop pool o hstop =>
    have hpool : pool = [] := by
      refine hstop.elim id fun hsat => List.eq_nil_iff_forall_not_mem.2 fun h hh => ?_
      have hacc := hworth h hh
      simp only [Needs.satisfied, Bool.and_eq_true, Bool.not_eq_true'] at hsat
      simp [Needs.accepts, hsat.1, hsat.2] at hacc
    subst hpool
    exact ⟨[], emptying_zero.2 rfl, rfl, rfl⟩
  | @next h rest pool o o₁ o' es es' i _ he ht _ ih =>
    have hperm := swapRemove_perm he
    have hlen := length_swapRemove he
    obtain ⟨hi, -⟩ := List.getElem?_eq_some_iff.1 (getElem?_of_swapRemove he)
    have hboth : handed es = [] ∧ handed es' = [] := by
      simpa [handed] using hnone
    have hneeds : o₁.needs = o.needs := by
      rw [ht.left, left, hboth.1, List.foldl_nil]
    obtain ⟨is, his, hdraws, hcontacts⟩ := ih (fun x hx => by
      rw [hneeds]
      exact hworth x (hperm.subset (List.mem_cons_of_mem h hx))) hboth.2
    have hacc := hworth h (hperm.subset List.mem_cons_self)
    refine ⟨i :: is, ?_, ?_, ?_⟩
    · rw [← hlen] at hi ⊢
      exact emptying_succ.2 ⟨hi, his⟩
    · have hall : draws (.draw pool.length i :: (es ++ es')) = (pool.length, i) :: draws es' := by
        change (pool.length, i) :: draws (es ++ es') = _
        rw [draws_append, ht.draws, List.nil_append]
      rw [hall, hdraws, List.mapIdx_cons, ← hlen]
      simp only [Nat.sub_zero, Nat.add_sub_add_right]
    · change contacts (es ++ es') = _
      rw [contacts_append, ht.contacts, if_pos hacc, hcontacts, dealt, he]
      rfl

/-- The numbers to come are a part of the state: the prober reads its draws off them one by one, and
nothing else that it does is seen there. -/
structure Deals (view : σ → List Nat) (others : σ → σ → Prop) (p : Prober σ ℓ κ) : Prop where
  stays : ∀ (e : Event) t s t' s', (∀ size i, e ≠ .draw size i) → e.Plays others p t s t' s' →
    view s' = view s
  takes : ∀ size i t s t' s', (Event.draw size i).Plays others p t s t' s' →
    i = (view s).headD 0 % size ∧ view s' = (view s).tail

/-- Where draws that empty a pool are to come, they are the draws. -/
theorem Course.draws {view : σ → List Nat} {t t' : List (Change σ)} {s s' : σ} {n : Nat}
    {is is' : List Nat} (hv : Deals view others p) (hc : Course others p es t s t' s')
    (hdraws : draws es = is.mapIdx fun k i => (n - k, i)) (his : Emptying n is)
    (his' : Emptying n is') (hnext : is' <+: view s) : is = is' := by
  induction hc generalizing n is is' with
  | nil =>
    rw [List.mapIdx_eq_nil_iff.1 hdraws.symm] at his ⊢
    exact (List.length_eq_zero_iff.1 (his'.1.trans his.1.symm)).symm
  | @cons e es t t₁ t' s s₁ s' he _ ih =>
    cases e with
    | draw size i =>
      obtain ⟨hi, hleft⟩ := hv.takes size i t s t₁ s₁ he
      obtain ⟨more, hmore⟩ := hnext
      change (size, i) :: Search.draws es = _ at hdraws
      cases is with
      | nil => cases hdraws
      | cons j js =>
        obtain ⟨m, rfl⟩ : ∃ m, n = m + 1 := ⟨js.length, his.1.symm⟩
        cases is' with
        | nil => cases his'.1
        | cons j' js' =>
          rw [List.mapIdx_cons] at hdraws
          obtain ⟨hfirst, hothers⟩ := List.cons.inj hdraws
          cases hfirst
          obtain ⟨-, hjs⟩ := emptying_succ.1 his
          obtain ⟨hj', hjs'⟩ := emptying_succ.1 his'
          rw [← hmore] at hi hleft
          have hsame : i = j' := hi.trans (Nat.mod_eq_of_lt hj')
          simp only [Nat.add_sub_add_right] at hothers
          rw [hsame, ih hothers hjs hjs' ⟨more, hleft.symm⟩]
    | _ =>
      have hsame := hv.stays _ t s t₁ s₁ (by simp) he
      exact ih hdraws his his' (hsame ▸ hnext)

/-- A pass that satisfies no need tries every entry of its pool once, in an order that the draws
decide. Every order comes of one sequence of draws, so that independent and uniform draws give each
with the same probability. -/
theorem orders_equally_likely (hp : Fair p) (others : σ → σ → Prop) (hosts : List Host) (o : Outcome)
    (t : List (Change σ)) (s : σ) :
    let pool := hosts.filter o.needs.accepts
    let order := dealt (List.finRange pool.length)
    (∃ o' t' s', (pass p hosts o).Plays others t s o' t' s') ∧
    (∀ o' t' s', (pass p hosts o).Plays others t s o' t' s' → o'.needs = o.needs →
      ∃ es is, Course others p es t s t' s' ∧ Emptying pool.length is ∧
        draws es = is.mapIdx (fun k i => (pool.length - k, i)) ∧
        contacts es = (order is).map pool.get ∧
        ∀ view, Deals view others p → ∀ is', Emptying pool.length is' → is' <+: view s → is = is') ∧
    Set.BijOn order {is | Emptying pool.length is} {xs | xs.Perm (List.finRange pool.length)} ∧
    ∀ {Ω : Type} [MeasurableSpace Ω] (P : Measure Ω) (D : Fin pool.length → Ω → Nat), iIndepFun D P →
      (∀ (k : Fin pool.length) (i : Nat), i < pool.length - k →
        P {ω | D k ω = i} = ((pool.length - k : Nat) : ℝ≥0∞)⁻¹) →
      ∀ xs, xs.Perm (List.finRange pool.length) →
        P {ω | order (List.ofFn fun k => D k ω) = xs} = (pool.length ! : ℝ≥0∞)⁻¹ := by
  intro pool order
  have hall := dealt_bijOn (List.nodup_finRange pool.length)
  rw [List.length_finRange] at hall
  refine ⟨exists_plays others _ t s, fun o' t' s' hplay hneeds => ?_, hall, ?_⟩
  · obtain ⟨es, hcourse, hdrawn⟩ := drawn_of_plays hp (Nat.le_refl _) hplay
    have hnone : handed es = [] :=
      handed_eq_nil hdrawn.drained.fitting (hdrawn.drained.left.symm.trans hneeds)
    obtain ⟨is, his, hdraws, hcontacts⟩ :=
      hdrawn.emptied (fun h hh => (List.mem_filter.1 hh).2) hnone
    refine ⟨es, is, hcourse, his, hdraws, ?_, fun view hv is' his' hnext =>
      hcourse.draws hv hdraws his his' hnext⟩
    rw [hcontacts, ← dealt_map, List.map_get_finRange]
  · intro Ω _ P D hindep huniform xs hxs
    exact measure_dealt (List.nodup_finRange _) List.length_finRange hindep huniform hxs

end Passes

section Network
variable {ℓ κ : Type}

theorem deals_prober (mode : Mode) (r : Registry) {others : Network → Network → Prop}
    (ho : ∀ n n', others n n' → n'.draws = n.draws) :
    Deals (·.draws) others (prober mode r : Prober Network ℓ κ) := by
  constructor
  · intro e t n t' n' hdraw hplay
    by_cases hexclude : ∃ h, e = .exclude h
    · obtain ⟨h, rfl⟩ := hexclude
      obtain ⟨now, -, rfl⟩ := plays_change.1 hplay
      cases r <;> rfl
    · refine stays_prober (fun _ _ hd _ => hd) ho hdraw (fun h he => ?_) hplay
      exact hexclude ⟨h, he⟩
  · intro size i t n t' n' hplay
    obtain ⟨now, rfl, -, rfl⟩ := plays_transact.1 hplay
    exact ⟨rfl, rfl⟩

/-- Uniform draws below `n`, below one less, and so on, each independent of the others. -/
noncomputable def fairDraws (n : Nat) : Measure (Fin n → Nat) :=
  Measure.pi fun k => (PMF.uniformOfFinset (Finset.range (n - k))
    (Finset.nonempty_range_iff.2 (Nat.sub_ne_zero_of_lt k.2))).toMeasure

theorem iIndepFun_fairDraws (n : Nat) : iIndepFun (fun k D => D k) (fairDraws n) :=
  iIndepFun_pi (X := fun _ i => i) fun _ => aemeasurable_id

theorem fairDraws_uniform {n : Nat} (k : Fin n) (i : Nat) (hi : i < n - k) :
    fairDraws n {D | D k = i} = ((n - k : Nat) : ℝ≥0∞)⁻¹ := by
  have hone : MeasurableSet {i} := measurableSet_singleton i
  have hdraw : fairDraws n (Set.preimage (Function.eval k) {i}) = _ :=
    (measurePreserving_eval _ k).measure_preimage hone.nullMeasurableSet
  rw [PMF.toMeasure_apply_singleton _ i hone,
    PMF.uniformOfFinset_apply_of_mem _ (Finset.mem_range.2 hi), Finset.card_range] at hdraw
  exact hdraw

/-- All three servers are down, and the draws try the primary last, in one of six orders that are
equally likely. -/
theorem orders_equally_likely_all_down :
    let down := (((Cluster.ofHosts (Cluster.replicationHosts 2)).stop ⟨"mock-0", 3306⟩).stop
      ⟨"mock-1", 3307⟩).stop ⟨"mock-2", 3308⟩
    let n₀ : Network := { draws := [1, 1, 0], cluster := down }
    let p : Prober Network Unit Unit := prober .replication .own
    let hosts := (Cluster.replicationHosts 2).map (·.1)
    Fair p ∧ Deals (·.draws) (fun n n' => n' = n) p ∧ ∃ o t n es,
      (pass p hosts { needs := ⟨true, true⟩ }).Plays (fun n n' => n' = n) [] n₀ o t n ∧
      o.needs = ⟨true, true⟩ ∧ Course (fun n n' => n' = n) p es [] n₀ t n ∧
      draws es = [(3, 1), (2, 1), (1, 0)] ∧
      (contacts es).map (·.endpoint.name) = ["mock-1", "mock-2", "mock-0"] ∧
      fairDraws 3 {D | dealt (List.finRange 3) (List.ofFn D) = [1, 2, 0]} = (3 ! : ℝ≥0∞)⁻¹ := by
  intro down n₀ p hosts
  have hv : Deals (·.draws) (fun n n' => n' = n) p :=
    deals_prober .replication .own fun _ _ he => by rw [he]
  have hplay := plays_alone (fun n n' => n' = n) 0 (pass p hosts { needs := ⟨true, true⟩ }) [] n₀
  obtain ⟨-, hpass, -, hchance⟩ := orders_equally_likely (fair_prober .replication .own)
    (fun n n' => n' = n) hosts { needs := ⟨true, true⟩ } [] n₀
  have hneeds : ((pass p hosts { needs := ⟨true, true⟩ }).alone 0 [] n₀).1.needs = ⟨true, true⟩ := by
    decide +kernel
  obtain ⟨es, is, hcourse, his, hdraws, hcontacts, hdealt⟩ := hpass _ _ _ hplay hneeds
  have hsame := hdealt _ hv [1, 1, 0] (by unfold Emptying; decide +kernel) (List.prefix_refl _)
  subst hsame
  refine ⟨fair_prober .replication .own, hv, _, _, _, es, hplay, hneeds, hcourse, hdraws, ?_, ?_⟩
  · rw [hcontacts]
    decide +kernel
  · have horder : ([1, 2, 0] : List (Fin 3)).Perm (List.finRange 3) := by decide
    exact hchance (fairDraws 3) (fun k D => D k) (iIndepFun_fairDraws 3) fairDraws_uniform _ horder

end Network
end Failover.Search
