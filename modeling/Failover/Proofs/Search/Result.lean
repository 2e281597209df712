import Failover.Proofs.Network.ServerState
import Failover.Proofs.Routine.Steps
import Failover.Search
import Mathlib.Data.List.Perm.Basic

/-!
What a search finds. Its answer depends on how the servers stand, and on nothing else: not on what
is drawn, nor on the order of the candidates, nor on which of them are left out at first.
-/
namespace Failover.Search
open Routine

section Rule
variable {σ ℓ κ α : Type} {ρ : Rules σ} {p : Prober σ ℓ κ}

theorem swapRemove_perm {i : Nat} {pool : List α} {h : α} {rest : List α}
    (he : swapRemove i pool = some (h, rest)) : (h :: rest).Perm pool := by
  unfold swapRemove at he
  split at he
  · rename_i x last hx hlast
    simp only [Option.some.injEq, Prod.mk.injEq] at he
    obtain ⟨rfl, rfl⟩ := he
    obtain ⟨hi, rfl⟩ := List.getElem?_eq_some_iff.1 hx
    have hne : pool.set i last ≠ [] := by
      intro h0
      simp_all
    have hend : (pool.set i last).getLast hne = last := by
      have hp : pool ≠ [] := by
        intro he
        subst he
        simp at hi
      rw [List.getLast?_eq_some_getLast hp, Option.some.injEq] at hlast
      rw [List.getLast_eq_getElem] at hlast ⊢
      simp only [List.getElem_set, List.length_set]
      split
      · rfl
      · exact hlast
    have hset : ((pool.set i last).dropLast ++ [last]).Perm (last :: pool.eraseIdx i) := by
      have := List.dropLast_append_getLast hne
      rw [hend] at this
      rw [this]
      exact List.set_perm_cons_eraseIdx hi last
    have hrest : ((pool.set i last).dropLast).Perm (pool.eraseIdx i) :=
      (List.perm_cons last).1 ((List.perm_append_singleton last _).symm.trans hset)
    exact (hrest.cons _).trans (List.getElem_cons_eraseIdx_perm hi)
  · cases he

theorem le_of_swapRemove {i : Nat} {pool : List α} (he : swapRemove i pool = none) :
    pool.length ≤ i := by
  by_contra hi
  have hi := Nat.lt_of_not_le hi
  have hp : pool ≠ [] := by
    intro he
    subst he
    simp at hi
  simp [swapRemove, List.getElem?_eq_getElem hi, List.getLast?_eq_some_getLast hp] at he

/-- What is so after a probe, of a host that is of no use and of a connection that is of use. -/
def Probed (missed : List (Change σ) → σ → Prop)
    (hit : Role → Handle → List (Change σ) → σ → Prop) :
    Option (Role × Handle) → List (Change σ) → σ → Prop
  | none => missed
  | some (role, c) => hit role c

/-- The rule of passes, from what every draw keeps to what is so when nothing is needed any more or
no host is left, or where a draw missed. -/
theorem ensures_drain {P : List Host → Outcome → List (Change σ) → σ → Prop}
    {Q : Outcome → List (Change σ) → σ → Prop}
    (stop : ∀ pool o t s, P pool o t s → pool = [] ∨ o.needs.satisfied = true → Q o t s)
    (draw : ∀ pool o t s, pool ≠ [] → P pool o t s → (p.draw pool.length).Ensures ρ
      (fun i t s => P pool o t s ∧ (pool.length ≤ i → Q o t s)) t s)
    (skip : ∀ h rest pool o t s, (h :: rest).Perm pool → P pool o t s →
      o.needs.accepts h = false → P rest o t s)
    (attempt : ∀ h rest pool o t s, (h :: rest).Perm pool → P pool o t s →
      o.needs.accepts h = true → (probe p o.needs h).Ensures ρ
        (Probed (P rest o) fun role c => (p.found role c).Ensures ρ
          fun _ => P rest ⟨o.needs.clear role, o.found ++ [(role, c)]⟩) t s)
    {n : Nat} {pool : List Host} {o : Outcome} {t : List (Change σ)} {s : σ}
    (hn : pool.length ≤ n) (hp : P pool o t s) : (drain p n pool o).Ensures ρ Q t s := by
  induction n generalizing pool o t s with
  | zero => exact stop pool o t s hp (.inl (List.length_eq_zero_iff.1 (Nat.le_zero.1 hn)))
  | succ n ih =>
    unfold drain
    split
    · rename_i hstop
      exact stop pool o t s hp (by simpa using hstop)
    · rename_i hstop
      have hne : pool ≠ [] := by
        intro he
        subst he
        simp at hstop
      refine (draw pool o t s hne hp).bind fun i t s hd => ?_
      obtain ⟨hp, hmiss⟩ := hd
      cases he : swapRemove i pool with
      | none => exact hmiss (le_of_swapRemove he)
      | some taken =>
        obtain ⟨host, rest⟩ := taken
        have hperm := swapRemove_perm he
        have hlen : rest.length ≤ n := by
          have := length_swapRemove he
          omega
        dsimp only
        split
        · rename_i hacc
          refine (attempt host rest pool o t s hperm hp hacc).bind fun x t s hx => ?_
          cases x with
          | none => exact ih hlen hx
          | some found => exact hx.bind fun _ t s hp => ih hlen hp
        · rename_i hacc
          exact ih hlen (skip host rest pool o t s hperm hp (by simpa using hacc))

/-- The rule of searches, for what depends on what is still needed but not on which hosts are left:
it is kept by a draw, and by an attempt at a host together with what is done with the connection. -/
theorem ensures_twoPass_of_needs {P : Needs → List (Change σ) → σ → Prop}
    (draw : ∀ size needs t s, P needs t s → (p.draw size).Ensures ρ (fun _ => P needs) t s)
    (attempt : ∀ needs h t s, P needs t s → (probe p needs h).Ensures ρ
      (Probed (P needs) fun role c => (p.found role c).Ensures ρ fun _ => P (needs.clear role)) t s)
    (b : Blacklist) (candidates : List Host) (needs : Needs) {t : List (Change σ)} {s : σ}
    (hp : P needs t s) : (twoPass p b candidates needs).Ensures ρ (fun o => P o.needs) t s := by
  have hpass (hosts : List Host) (o : Outcome) {t : List (Change σ)} {s : σ} (hp : P o.needs t s) :
      (pass p hosts o).Ensures ρ (fun o => P o.needs) t s :=
    ensures_drain (P := fun _ o => P o.needs) (fun _ _ _ _ hp _ => hp)
      (fun pool o t s _ hp => (draw pool.length o.needs t s hp).mono fun _ _ _ hp =>
        ⟨hp, fun _ => hp⟩)
      (fun _ _ _ _ _ _ _ hp _ => hp) (fun h _ _ o t s _ hp _ => attempt o.needs h t s hp)
      (Nat.le_refl _) hp
  refine (hpass _ { needs } hp).bind fun o t s hp => ?_
  split
  · exact hp
  · exact hpass _ _ hp

theorem ensures_twoPass {P : List (Change σ) → σ → Prop}
    (draw : ∀ size t s, P t s → (p.draw size).Ensures ρ (fun _ => P) t s)
    (attempt : ∀ needs h t s, P t s → (probe p needs h).Ensures ρ
      (Probed P fun role c => (p.found role c).Ensures ρ fun _ => P) t s)
    (b : Blacklist) (candidates : List Host) (needs : Needs) {t : List (Change σ)} {s : σ}
    (hp : P t s) : (twoPass p b candidates needs).Ensures ρ (fun _ => P) t s :=
  ensures_twoPass_of_needs (P := fun _ => P) (fun size _ => draw size) attempt b candidates needs hp

/-- Every step that a prober can take is allowed. -/
structure AllSteps (ok : σ → σ → Prop) (p : Prober σ ℓ κ) : Prop where
  draw : ∀ size, (p.draw size).Steps ok
  connect : ∀ h, (p.connect h).Steps ok
  role : ∀ c, (p.role c).Steps ok
  close : ∀ c, (p.close c).Steps ok
  exclude : ∀ h, (p.exclude h).Steps ok
  found : ∀ role c, (p.found role c).Steps ok

variable {ok : σ → σ → Prop}

theorem steps_probe (hp : AllSteps ok p) (needs : Needs) (h : Host) :
    (probe p needs h).Steps ok := by
  refine (hp.connect h).bind fun x => ?_
  cases x with
  | error e => exact (hp.exclude h).bind fun _ => trivial
  | ok c =>
    refine (hp.role c).bind fun y => ?_
    cases y with
    | error e => exact (hp.exclude h).bind fun _ => (hp.close c).bind fun _ => trivial
    | ok role =>
      dsimp only
      split
      · trivial
      · exact (hp.close c).bind fun _ => trivial

theorem steps_drain (hp : AllSteps ok p) (n : Nat) (pool : List Host) (o : Outcome) :
    (drain p n pool o).Steps ok := by
  induction n generalizing pool o with
  | zero => trivial
  | succ n ih =>
    unfold drain
    split
    · trivial
    · refine (hp.draw _).bind fun i => ?_
      split
      · trivial
      · split
        · refine (steps_probe hp _ _).bind fun x => ?_
          cases x with
          | none => exact ih _ _
          | some hit => exact (hp.found hit.1 hit.2).bind fun _ => ih _ _
        · exact ih _ _

theorem steps_twoPass (hp : AllSteps ok p) (b : Blacklist) (candidates : List Host)
    (needs : Needs) : (twoPass p b candidates needs).Steps ok := by
  refine (steps_drain hp _ _ _).bind fun o => ?_
  split
  · trivial
  · exact steps_drain hp _ _ _

end Rule

open Network
variable {ℓ κ : Type}

def missing (mode : Mode) (n : Network) (hosts : List Host) (needs : Needs) : Needs where
  primary := needs.primary && !hosts.any fun h => n.role? mode h = some .primary
  replica := needs.replica && !hosts.any fun h => n.role? mode h = some .replica

/-- A search for hosts of a mode whose connections go to a listener. -/
def searching (mode : Mode) (r : Registry) (listener : Role → Handle → NetRoutine ℓ κ Unit)
    (b : Blacklist) (hosts : List Host) (needs : Needs) : NetRoutine ℓ κ Outcome :=
  twoPass { prober mode r with found := listener } b (Topology.ofHosts mode hosts).hosts needs

/-- A listener that leaves the servers as they stand. -/
def Gentle (listener : Role → Handle → NetRoutine ℓ κ Unit) : Prop :=
  ∀ role c t n, (listener role c).Ensures
    { others := Steady, own := fun _ e => SameServers e.before e.after } (fun _ _ _ => True) t n

section Missing
variable {mode : Mode} {n : Network} {needs : Needs}

theorem missing_congr {n' : Network} {hosts hosts' : List Host} (hh : ∀ h, h ∈ hosts' ↔ h ∈ hosts)
    (hn : ∀ e, n'.standing e = n.standing e) :
    missing mode n' hosts' needs = missing mode n hosts needs := by
  have hany (role : Role) : hosts'.any (fun h => n'.role? mode h = some role) =
      hosts.any fun h => n.role? mode h = some role := by
    rw [Bool.eq_iff_iff]
    have hrole (h : Host) : n'.role? mode h = n.role? mode h :=
      role?_eq_of_standing mode (hn h.endpoint)
    simp only [List.any_eq_true, hh, hrole]
  simp only [missing, hany]

theorem missing_perm (mode : Mode) (n : Network) (needs : Needs) {hosts hosts' : List Host}
    (h : hosts.Perm hosts') :
    missing mode n hosts needs = missing mode n hosts' needs :=
  missing_congr (fun _ => h.mem_iff) fun _ => rfl

theorem missing_nil : missing mode n [] needs = needs := by
  simp [missing]

theorem missing_of_satisfied {hosts : List Host} (h : needs.satisfied = true) :
    missing mode n hosts needs = needs := by
  obtain ⟨p, r⟩ := needs
  simp only [Needs.satisfied, Bool.and_eq_true, Bool.not_eq_true'] at h
  simp [missing, h.1, h.2]

theorem missing_cons (h : Host) (hosts : List Host) :
    missing mode n (h :: hosts) needs =
      missing mode n hosts (match n.role? mode h with
        | none => needs
        | some role => needs.clear role) := by
  cases hr : n.role? mode h with
  | none => simp [missing, hr]
  | some role => cases role <;> simp [missing, hr, Needs.clear]

theorem clear_of_not_wants {role : Role} (h : needs.wants role = false) :
    needs.clear role = needs := by
  obtain ⟨p, r⟩ := needs
  cases role <;> simp_all [Needs.wants, Needs.clear]

theorem not_wants_of_not_accepts {h : Host} {role : Role} (hm : mode.roleOf h.role = h.role)
    (ha : needs.accepts h = false) (hr : n.role? mode h = some role) :
    needs.wants role = false := by
  obtain ⟨s, -, rfl⟩ := Option.map_eq_some_iff.1 hr
  obtain ⟨e, r⟩ := h
  cases mode <;> cases r <;>
    simp_all [Mode.roleOf, Mode.discoversRoles, Needs.accepts, Host.mayBePrimary,
      Host.mayBeReplica, Needs.wants]
  split <;> rfl

theorem missing_cons_of_not_accepts {h : Host} {hosts : List Host}
    (hm : mode.roleOf h.role = h.role) (ha : needs.accepts h = false) :
    missing mode n (h :: hosts) needs = missing mode n hosts needs := by
  rw [missing_cons]
  cases hr : n.role? mode h with
  | none => rfl
  | some role => exact congrArg _ (clear_of_not_wants (not_wants_of_not_accepts hm ha hr))

theorem missing_filter_accepts {hosts : List Host}
    (hm : ∀ h ∈ hosts, mode.roleOf h.role = h.role) :
    missing mode n (hosts.filter needs.accepts) needs = missing mode n hosts needs := by
  have hany (role : Role) (hw : needs.wants role = true) :
      (hosts.filter needs.accepts).any (fun h => n.role? mode h = some role) =
        hosts.any fun h => n.role? mode h = some role := by
    rw [Bool.eq_iff_iff]
    simp only [List.any_eq_true, List.mem_filter, decide_eq_true_eq]
    refine exists_congr fun h => ⟨fun hh => ⟨hh.1.1, hh.2⟩, ?_⟩
    intro hd
    obtain ⟨hmem, hr⟩ := hd
    refine ⟨⟨hmem, ?_⟩, hr⟩
    cases ha : needs.accepts h with
    | true => rfl
    | false => exact absurd hw (by simp [not_wants_of_not_accepts (hm h hmem) ha hr])
  unfold missing
  congr 1
  · cases hp : needs.primary with
    | false => rfl
    | true => rw [hany .primary hp]
  · cases hp : needs.replica with
    | false => rfl
    | true => rw [hany .replica hp]

theorem missing_append (hosts hosts' : List Host) :
    missing mode n (hosts ++ hosts') needs =
      missing mode n hosts' (missing mode n hosts needs) := by
  simp [missing, Bool.and_assoc]

/-- Nothing is missing when every needed role has a host that serves it. -/
theorem missing_satisfied_iff {hosts : List Host} :
    (missing mode n hosts needs).satisfied = true ↔
      ∀ role, needs.wants role = true → ∃ h ∈ hosts, n.role? mode h = some role := by
  simp only [missing, Needs.satisfied, Bool.and_eq_true, Bool.not_eq_true', Bool.and_eq_false_iff,
    Bool.not_eq_false', List.any_eq_true, decide_eq_true_eq]
  constructor
  · intro hd role hw
    obtain ⟨hp, hr⟩ := hd
    cases role with
    | primary => exact hp.resolve_left (by simpa [Needs.wants] using hw)
    | replica => exact hr.resolve_left (by simpa [Needs.wants] using hw)
    | unset => cases hw
  · intro h
    constructor
    · cases hp : needs.primary with
      | false => exact .inl rfl
      | true => exact .inr (h .primary hp)
    · cases hr : needs.replica with
      | false => exact .inl rfl
      | true => exact .inr (h .replica hr)

theorem missing_partition (mode : Mode) (n : Network) (needs : Needs) (f : Host → Bool)
    (hosts : List Host) :
    missing mode n (hosts.partition f).1 (missing mode n (hosts.partition f).2 needs) =
      missing mode n hosts needs := by
  rw [← missing_append]
  refine missing_congr (fun h => ?_) fun _ => rfl
  cases hf : f h <;> simp [hf]

end Missing

section Truthful
variable {σ : Type} {ρ : Rules σ} {mode : Mode} {n₀ : Network} {same : σ → Prop}
  {p : Prober σ ℓ κ} {t : List (Change σ)} {s : σ}

/-- While the servers stand as in a network, a probe of a host tells the role in which it serves
there, if that is needed, and nothing that a search does changes how they stand. -/
structure Truthful (ρ : Rules σ) (mode : Mode) (n₀ : Network) (same : σ → Prop)
    (p : Prober σ ℓ κ) : Prop where
  draw : ∀ size t s, 0 < size → same s →
    (p.draw size).Ensures ρ (fun i _ s => same s ∧ i < size) t s
  probe : ∀ h needs t s, mode.roleOf h.role = h.role → same s → (probe p needs h).Ensures ρ
    (fun x _ s => same s ∧ x.map (·.1) = (n₀.role? mode h).filter needs.wants) t s
  found : ∀ role c t s, same s → (p.found role c).Ensures ρ (fun _ _ => same) t s

/-- What is missing after the hosts still in the pool will be what was missing from the start. -/
structure Due (mode : Mode) (n₀ : Network) (same : σ → Prop) (due : Needs) (pool : List Host)
    (o : Outcome) (s : σ) : Prop where
  same : same s
  normal : ∀ h ∈ pool, mode.roleOf h.role = h.role
  missing : missing mode n₀ pool o.needs = due

/-- A pass takes the roles that its hosts serve off the list of what is needed. -/
theorem ensures_pass {hosts : List Host} {o : Outcome} (hp : Truthful ρ mode n₀ same p)
    (hm : ∀ h ∈ hosts, mode.roleOf h.role = h.role) (hs : same s) :
    (pass p hosts o).Ensures ρ
      (fun o' _ s => same s ∧ o'.needs = missing mode n₀ hosts o.needs) t s := by
  have hstart : Due mode n₀ same (missing mode n₀ hosts o.needs) (hosts.filter o.needs.accepts) o s :=
    ⟨hs, fun h hh => hm h (List.mem_filter.1 hh).1, missing_filter_accepts hm⟩
  refine ensures_drain (P := fun pool o _ s => Due mode n₀ same _ pool o s) ?_ ?_ ?_ ?_
    (Nat.le_refl _) hstart
  · intro pool o' t s hdue hend
    refine ⟨hdue.same, ?_⟩
    rw [← hdue.missing]
    rcases hend with rfl | hsat
    · rw [missing_nil]
    · rw [missing_of_satisfied hsat]
  · intro pool o t s hne hdue
    refine (hp.draw pool.length t s (List.length_pos_iff.2 hne) hdue.same).mono fun i t s hd => ?_
    exact ⟨⟨hd.1, hdue.normal, hdue.missing⟩, fun hle => (Nat.not_lt.2 hle hd.2).elim⟩
  · intro h rest pool o t s hperm hdue hacc
    have hrest (x : Host) (hx : x ∈ rest) : x ∈ pool := hperm.mem_iff.1 (List.mem_cons_of_mem h hx)
    refine ⟨hdue.same, fun x hx => hdue.normal x (hrest x hx), ?_⟩
    rw [← missing_cons_of_not_accepts (hdue.normal h (hperm.mem_iff.1 List.mem_cons_self)) hacc,
      missing_perm mode n₀ _ hperm, hdue.missing]
  · intro h rest pool o t s hperm hdue hacc
    have hrest (x : Host) (hx : x ∈ rest) : x ∈ pool := hperm.mem_iff.1 (List.mem_cons_of_mem h hx)
    have hnormal (x : Host) (hx : x ∈ rest) := hdue.normal x (hrest x hx)
    have hmissing := missing_perm mode n₀ o.needs hperm
    rw [hdue.missing, missing_cons] at hmissing
    refine (hp.probe h o.needs t s (hdue.normal h (hperm.mem_iff.1 List.mem_cons_self))
      hdue.same).mono fun x t s hd => ?_
    obtain ⟨hs, hx⟩ := hd
    cases x with
    | none =>
      refine ⟨hs, hnormal, ?_⟩
      cases hr : n₀.role? mode h with
      | none => simpa [hr] using hmissing
      | some role =>
        have hw : o.needs.wants role = false := by
          simpa [hr, Option.filter] using hx
        simpa [hr, clear_of_not_wants hw] using hmissing
    | some found =>
      obtain ⟨role, c⟩ := found
      have hr : n₀.role? mode h = some role := (Option.filter_eq_some_iff.1 hx.symm).1
      refine (hp.found role c t s hs).mono fun _ t s hs => ⟨hs, hnormal, ?_⟩
      simpa [hr] using hmissing

/-- What is left out at first makes no difference. -/
theorem Truthful.twoPass {b : Blacklist} {candidates : List Host} {needs : Needs}
    (hp : Truthful ρ mode n₀ same p) (hm : ∀ h ∈ candidates, mode.roleOf h.role = h.role)
    (hs : same s) : (twoPass p b candidates needs).Ensures ρ
      (fun o _ _ => o.needs = missing mode n₀ candidates needs) t s := by
  unfold Search.twoPass
  have hpart := missing_partition mode n₀ needs (fun h => b.contains h.endpoint) candidates
  have hmem {h : Host} : h ∈ candidates ↔
      h ∈ (candidates.partition fun h => b.contains h.endpoint).1 ∨
        h ∈ (candidates.partition fun h => b.contains h.endpoint).2 := by
    cases hf : b.contains h.endpoint <;> simp [hf]
  refine (ensures_pass hp (fun h hh => hm h (hmem.2 (.inr hh))) hs).bind fun o t s hd => ?_
  obtain ⟨hs, ho⟩ := hd
  dsimp only at ho
  split
  · rename_i hstop
    rw [ensures_pure, ← hpart, ← ho]
    rcases (Bool.or_eq_true _ _).mp hstop with hsat | hempty
    · rw [missing_of_satisfied hsat]
    · have hnil : (candidates.partition fun h => b.contains h.endpoint).1 = [] :=
        List.isEmpty_iff.1 hempty
      rw [hnil, missing_nil]
  · refine (ensures_pass hp (fun h hh => hm h (hmem.2 (.inl hh))) hs).mono fun o' t s hd => ?_
    rw [hd.2, ho, hpart]

end Truthful

section Exact
variable {mode : Mode} {r : Registry} {listener : Role → Handle → NetRoutine ℓ κ Unit}
  {n₀ : Network}

theorem ensures_probe {h : Host} {needs : Needs} {t : List (Change Network)} {n : Network}
    (hm : mode.roleOf h.role = h.role) (hcalm : n₀.Calm) (hn : SameServers n₀ n) :
    (probe { prober mode r with found := listener } needs h).Ensures ⟨Steady, fun _ _ => True⟩
      (fun x _ n => SameServers n₀ n ∧
        x.map (·.1) = (n₀.role? mode h).filter needs.wants) t n := by
  refine (Calls.ensures_connect mode hcalm hn).bind fun x t n hd => ?_
  obtain ⟨hn, hx⟩ := hd
  cases x with
  | error e =>
    refine Routine.ensures_bind.2 (Routine.ensures_change.2 fun now => ⟨trivial, ?_⟩)
    exact ⟨hn.trans (sameServers_updateBlacklist _ _ _), by simp [hx]⟩
  | ok c =>
    refine (Calls.ensures_role hm hcalm hn hx).bind fun x t n hd => ?_
    obtain ⟨hn, role, hx, hr⟩ := hd
    subst hx
    dsimp only
    split
    · rename_i hw
      exact ⟨hn, by simp [hr, hw, Option.filter]⟩
    · rename_i hw
      refine Routine.ensures_bind.2 (Routine.ensures_change.2 fun now => ⟨trivial, ?_⟩)
      exact ⟨hn.trans (sameServers_updateConnection _ _ _), by simp [hr, hw, Option.filter]⟩

theorem ensures_listener {role : Role} {c : Handle} {t : List (Change Network)} {n : Network}
    (hg : Gentle listener) (hn : SameServers n₀ n) :
    (listener role c).Ensures ⟨Steady, fun _ _ => True⟩ (fun _ _ n => SameServers n₀ n) t n := by
  refine Ensures.mono (Ensures.frame (F := fun _ n => SameServers n₀ n) ?_ ?_ ?_ hn
    (hg role c t n)) fun _ _ _ h => h.2
  · exact fun _ _ ho => ho
  · exact fun _ _ _ _ hn ho => hn.trans (Steady.toSameServers ho)
  · exact fun _ _ _ _ hn ho => ⟨trivial, hn.trans ho⟩

theorem truthful_prober (hg : Gentle listener) (hcalm : n₀.Calm) :
    Truthful ⟨Steady, fun _ _ => True⟩ mode n₀ (SameServers n₀)
      { prober mode r with found := listener } := by
  refine ⟨fun size t n hsize hn now => ⟨trivial, hn.trans (.of_eq rfl rfl), ?_⟩,
    fun h needs t n hm hn => ensures_probe hm hcalm hn, fun role c t n => ensures_listener hg⟩
  exact Nat.mod_lt _ hsize

theorem normal_ofHosts (mode : Mode) (hosts : List Host) :
    ∀ h ∈ (Topology.ofHosts mode hosts).hosts, mode.roleOf h.role = h.role := by
  intro h hh
  obtain ⟨x, -, rfl⟩ := List.mem_map.1 hh
  cases mode <;> cases x.role <;> rfl

theorem ensures_searching {b : Blacklist} {hosts : List Host} {needs : Needs}
    {t : List (Change Network)} (hg : Gentle listener) (hcalm : n₀.Calm) :
    (searching mode r listener b hosts needs).Ensures ⟨Steady, fun _ _ => True⟩
      (fun o _ _ => o.needs = missing mode n₀ (Topology.ofHosts mode hosts).hosts needs) t n₀ :=
  (truthful_prober hg hcalm).twoPass (normal_ofHosts mode hosts) (.refl n₀)

/-- The answer that a search owes. -/
def owed (mode : Mode) (n : Network) (hosts : List Host) (needs : Needs) : Except Error Unit :=
  let due := missing mode n (Topology.ofHosts mode hosts).hosts needs
  if due.satisfied then .ok () else .error (.noHostFound due)

/-- A search comes to an end, and it succeeds just when every needed role is served by a candidate
that can be reached; else it names the roles for which there is none. So does every other search of
the same candidates on servers that stand alike. -/
theorem searching_exact (mode : Mode) (r : Registry) (b : Blacklist) (hosts : List Host)
    (needs : Needs) (hcalm : n₀.Calm) (hg : Gentle listener) :
    (∃ o t n, (searching mode r listener b hosts needs).Plays Steady [] n₀ o t n) ∧
      ∀ o t n, (searching mode r listener b hosts needs).Plays Steady [] n₀ o t n →
        o.result = owed mode n₀ hosts needs ∧
        ∀ (r' : Registry) (listener' : Role → Handle → NetRoutine ℓ κ Unit) (b' : Blacklist)
          (hosts' : List Host) (n₁ : Network), Gentle listener' → n₁.Calm →
          (∀ h, h ∈ hosts' ↔ h ∈ hosts) → (∀ e, n₁.standing e = n₀.standing e) →
          ∀ o' t' n', (searching mode r' listener' b' hosts' needs).Plays Steady [] n₁ o' t' n' →
            o'.result = o.result := by
  have hresult {r : Registry} {listener : Role → Handle → NetRoutine ℓ κ Unit} {b : Blacklist}
      {hosts : List Host} {n : Network} (hcalm : n.Calm) (hg : Gentle listener) {o : Outcome}
      {t : List (Change Network)} {n' : Network}
      (h : (searching mode r listener b hosts needs).Plays Steady [] n o t n') :
      o.result = owed mode n hosts needs := by
    have hneeds := Ensures.plays (ρ := ⟨Steady, fun _ _ => True⟩) (ensures_searching hg hcalm) h
    rw [Outcome.result, hneeds, owed]
  refine ⟨exists_plays Steady _ [] n₀, fun o t n h => ⟨hresult hcalm hg h, ?_⟩⟩
  intro r' listener' b' hosts' n₁ hg' hcalm' hhosts hstanding o' t' n' h'
  rw [hresult hcalm' hg' h', hresult hcalm hg h, owed, owed]
  rw [missing_congr (fun x => ?_) hstanding]
  simp only [Topology.ofHosts, List.mem_map, hhosts]

/-- One primary and one replica are found, whichever of them is left out at first. -/
theorem searching_exact_one_replica :
    ∃ o t n, (searching .replication .own (fun _ _ => .done ()) ⟨[(⟨"mock-0", 3306⟩, 0)]⟩
      ((Cluster.replicationHosts 1).map (·.1)) ⟨true, true⟩ :
        NetRoutine Unit Unit Outcome).Plays Steady []
        { cluster := .ofHosts (Cluster.replicationHosts 1) } o t n ∧ o.result = .ok () := by
  have hcalm : ({ cluster := .ofHosts (Cluster.replicationHosts 1) } : Network).Calm := by
    intro x hd
    cases hd
  have hg : Gentle (fun _ _ => .done () : Role → Handle → NetRoutine Unit Unit Unit) :=
    fun _ _ _ _ => trivial
  obtain ⟨⟨o, t, n, h⟩, hall⟩ := searching_exact .replication .own ⟨[(⟨"mock-0", 3306⟩, 0)]⟩
    ((Cluster.replicationHosts 1).map (·.1)) ⟨true, true⟩ hcalm hg
  exact ⟨o, t, n, h, (hall o t n h).1.trans (by decide +kernel)⟩

end Exact
end Failover.Search
