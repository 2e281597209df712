import Failover.Proofs.Network.CallFrames
import Failover.Proofs.Search.Result
import Mathlib.Data.List.Induction
import Mathlib.Data.List.Perm.Subperm

/-!
How a search goes about it, call by call: whom it tries, what it does with the connections that it
gets, and which hosts it leaves out from then on.
-/
namespace Failover.Search
open Routine

inductive Event where
  | draw (size i : Nat)
  | connect (host : Host) (answer : Except Error Handle)
  | check (c : Handle) (answer : Except Error Role)
  | close (c : Handle)
  | exclude (host : Host)
  | found (role : Role) (c : Handle)

section Tales

def contacts (es : List Event) : List Host :=
  es.filterMap fun
    | .connect h _ => some h
    | _ => none

def opened (es : List Event) : List Handle :=
  es.filterMap fun
    | .connect _ (.ok c) => some c
    | _ => none

def closed (es : List Event) : List Handle :=
  es.filterMap fun
    | .close c => some c
    | _ => none

/-- The connections that are handed over, and the roles for which they are. -/
def handed (es : List Event) : List (Role × Handle) :=
  es.filterMap fun
    | .found role c => some (role, c)
    | _ => none

def excluded (es : List Event) : List Host :=
  es.filterMap fun
    | .exclude h => some h
    | _ => none

/-- The hosts that could not be reached, or could not say what they serve. -/
def failed : List Event → List Host
  | .connect h (.error _) :: es => h :: failed es
  | .connect h (.ok _) :: .check _ (.error _) :: es => h :: failed es
  | _ :: es => failed es
  | [] => []

def left (needs : Needs) (es : List Event) : Needs :=
  (handed es).foldl (fun needs x => needs.clear x.1) needs

theorem left_append (needs : Needs) (es es' : List Event) :
    left needs (es ++ es') = left (left needs es) es' := by
  simp only [left, handed, List.filterMap_append, List.foldl_append]

theorem wants_clear (needs : Needs) (role role' : Role) :
    (needs.clear role).wants role' = (needs.wants role' && decide (role ≠ role')) := by
  cases role <;> cases role' <;> simp [Needs.clear, Needs.wants]

theorem wants_left (needs : Needs) (es : List Event) (role : Role) :
    (left needs es).wants role = true ↔
      needs.wants role = true ∧ ∀ c, (role, c) ∉ handed es := by
  unfold left
  induction handed es generalizing needs with
  | nil => simp
  | cons x xs ih =>
    obtain ⟨role', c'⟩ := x
    rw [List.foldl_cons, ih, wants_clear, Bool.and_eq_true, decide_eq_true_eq]
    constructor
    · intro hd
      obtain ⟨⟨hw, hne⟩, hrest⟩ := hd
      refine ⟨hw, fun c hc => ?_⟩
      rcases List.mem_cons.1 hc with he | hc
      · exact hne (Prod.mk.inj he).1.symm
      · exact hrest c hc
    · intro hd
      obtain ⟨hw, hnone⟩ := hd
      refine ⟨⟨hw, fun he => ?_⟩, fun c hc => hnone c (List.mem_cons_of_mem _ hc)⟩
      subst he
      exact hnone c' List.mem_cons_self

theorem accepts_iff (needs : Needs) (h : Host) : needs.accepts h = true ↔
    needs.wants .primary = true ∧ h.mayBePrimary = true ∨
      needs.wants .replica = true ∧ h.mayBeReplica = true := by
  simp [Needs.accepts, Needs.wants]

theorem accepts_of_left {needs : Needs} {es : List Event} {h : Host}
    (ha : (left needs es).accepts h = true) : needs.accepts h = true := by
  have hwants {role : Role} (hw : (left needs es).wants role = true) : needs.wants role = true :=
    ((wants_left needs es role).1 hw).1
  rw [accepts_iff] at ha ⊢
  exact ha.imp (And.imp_left hwants) (And.imp_left hwants)

def Everywhere (P : List Event → Event → Prop) : List Event → Prop
  | [] => True
  | e :: es => P [] e ∧ Everywhere (fun before => P (e :: before)) es

theorem everywhere_append {P : List Event → Event → Prop} {es es' : List Event} :
    Everywhere P (es ++ es') ↔
      Everywhere P es ∧ Everywhere (fun before => P (es ++ before)) es' := by
  induction es generalizing P with
  | nil => simp [Everywhere]
  | cons e es ih => simp only [List.cons_append, Everywhere, ih, and_assoc]

theorem Everywhere.imp {P P' : List Event → Event → Prop} {es : List Event}
    (hp : ∀ before e, P before e → P' before e) (h : Everywhere P es) : Everywhere P' es := by
  induction es generalizing P P' with
  | nil => trivial
  | cons e es ih => exact ⟨hp [] e h.1, ih (fun before => hp (e :: before)) h.2⟩

theorem Everywhere.split {P : List Event → Event → Prop} {es before after : List Event} {e : Event}
    (h : Everywhere P es) (he : es = before ++ e :: after) : P before e := by
  subst he
  simpa [Everywhere] using (everywhere_append.1 h).2.1

end Tales

section Passes
variable {σ ℓ κ : Type} {others : σ → σ → Prop} {p : Prober σ ℓ κ}

/-- The call is made, and answered so. -/
def Event.Plays (others : σ → σ → Prop) (p : Prober σ ℓ κ) (t : List (Change σ)) (s : σ)
    (t' : List (Change σ)) (s' : σ) : Event → Prop
  | .draw size i => (p.draw size).Plays others t s i t' s'
  | .connect h x => (p.connect h).Plays others t s x t' s'
  | .check c x => (p.role c).Plays others t s x t' s'
  | .close c => (p.close c).Plays others t s () t' s'
  | .exclude h => (p.exclude h).Plays others t s () t' s'
  | .found role c => (p.found role c).Plays others t s () t' s'

/-- These calls are made one after the other, and nothing else. -/
inductive Course (others : σ → σ → Prop) (p : Prober σ ℓ κ) :
    List Event → List (Change σ) → σ → List (Change σ) → σ → Prop
  | nil {t : List (Change σ)} {s : σ} : Course others p [] t s t s
  | cons {e : Event} {es : List Event} {t t₁ t' : List (Change σ)} {s s₁ s' : σ} :
      e.Plays others p t s t₁ s₁ → Course others p es t₁ s₁ t' s' →
      Course others p (e :: es) t s t' s'

theorem Course.append {es es' : List Event} {t t₁ t' : List (Change σ)} {s s₁ s' : σ}
    (h : Course others p es t s t₁ s₁) (h' : Course others p es' t₁ s₁ t' s') :
    Course others p (es ++ es') t s t' s' := by
  induction h with
  | nil => exact h'
  | cons he _ ih => exact .cons he (ih h')

/-- What is done with a host that was drawn, and how that ends. -/
inductive Tried (h : Host) (o : Outcome) : List Event → Outcome → Prop
  | passed : o.needs.accepts h = false → Tried h o [] o
  | refused (x : Error) : o.needs.accepts h = true →
      Tried h o [.connect h (.error x), .exclude h] o
  | unsure (c : Handle) (x : Error) : o.needs.accepts h = true →
      Tried h o [.connect h (.ok c), .check c (.error x), .exclude h, .close c] o
  | useless (c : Handle) (role : Role) : o.needs.accepts h = true → o.needs.wants role = false →
      Tried h o [.connect h (.ok c), .check c (.ok role), .close c] o
  | useful (c : Handle) (role : Role) : o.needs.accepts h = true → o.needs.wants role = true →
      Tried h o [.connect h (.ok c), .check c (.ok role), .found role c]
        ⟨o.needs.clear role, o.found ++ [(role, c)]⟩

/-- A pass over a pool of hosts, draw by draw. -/
inductive Drained : List Host → Outcome → List Event → Outcome → Prop
  | stop {pool : List Host} {o : Outcome} : pool = [] ∨ o.needs.satisfied = true →
      Drained pool o [] o
  | next {h : Host} {rest pool : List Host} {o o₁ o' : Outcome} {es es' : List Event} (i : Nat) :
      o.needs.satisfied = false → (h :: rest).Perm pool → Tried h o es o₁ →
      Drained rest o₁ es' o' → Drained pool o (.draw pool.length i :: (es ++ es')) o'

/-- The same, where it is told which host of the pool a draw takes out. -/
inductive Drawn : List Host → Outcome → List Event → Outcome → Prop
  | stop {pool : List Host} {o : Outcome} : pool = [] ∨ o.needs.satisfied = true →
      Drawn pool o [] o
  | next {h : Host} {rest pool : List Host} {o o₁ o' : Outcome} {es es' : List Event} {i : Nat} :
      o.needs.satisfied = false → swapRemove i pool = some (h, rest) → Tried h o es o₁ →
      Drawn rest o₁ es' o' → Drawn pool o (.draw pool.length i :: (es ++ es')) o'

theorem Drawn.drained {pool : List Host} {o o' : Outcome} {es : List Event}
    (hd : Drawn pool o es o') : Drained pool o es o' := by
  induction hd with
  | stop hstop => exact .stop hstop
  | next hn he ht _ ih => exact .next _ hn (swapRemove_perm he) ht ih

/-- Draws are below the number that they are drawn from. -/
def Fair (p : Prober σ ℓ κ) : Prop := ∀ size, 0 < size → (p.draw size).Answers (· < size)

theorem tried_of_plays {o : Outcome} {h : Host} {x : Option (Role × Handle)}
    {t t' : List (Change σ)} {s s' : σ} (ha : o.needs.accepts h = true)
    (hplay : (probe p o.needs h).Plays others t s x t' s') :
    ∃ es, Course others p es t s t' s' ∧ match x with
      | none => Tried h o es o
      | some (role, c) => o.needs.wants role = true ∧
        es = [.connect h (.ok c), .check c (.ok role)] := by
  obtain ⟨y, t₁, s₁, hconnect, hplay⟩ := plays_bind.1 hplay
  cases y with
  | error e =>
    obtain ⟨_, t₂, s₂, hexclude, hplay⟩ := plays_bind.1 hplay
    obtain ⟨rfl, rfl, rfl⟩ := plays_pure.1 hplay
    exact ⟨_, .cons (e := .connect h _) hconnect (.cons (e := .exclude h) hexclude .nil),
      .refused e ha⟩
  | ok c =>
    obtain ⟨z, t₂, s₂, hrole, hplay⟩ := plays_bind.1 hplay
    cases z with
    | error e =>
      obtain ⟨_, t₃, s₃, hexclude, hplay⟩ := plays_bind.1 hplay
      obtain ⟨_, t₄, s₄, hclose, hplay⟩ := plays_bind.1 hplay
      obtain ⟨rfl, rfl, rfl⟩ := plays_pure.1 hplay
      exact ⟨_, .cons (e := .connect h _) hconnect (.cons (e := .check c _) hrole
        (.cons (e := .exclude h) hexclude (.cons (e := .close c) hclose .nil))), .unsure c e ha⟩
    | ok role =>
      dsimp only at hplay
      split at hplay
      · rename_i hw
        obtain ⟨rfl, rfl, rfl⟩ := plays_pure.1 hplay
        exact ⟨_, .cons (e := .connect h _) hconnect (.cons (e := .check c _) hrole .nil), hw, rfl⟩
      · rename_i hw
        obtain ⟨_, t₃, s₃, hclose, hplay⟩ := plays_bind.1 hplay
        obtain ⟨rfl, rfl, rfl⟩ := plays_pure.1 hplay
        exact ⟨_, .cons (e := .connect h _) hconnect (.cons (e := .check c _) hrole
          (.cons (e := .close c) hclose .nil)), .useless c role ha (by simpa using hw)⟩

theorem drawn_of_plays (hp : Fair p) {n : Nat} {pool : List Host} {o o' : Outcome}
    {t t' : List (Change σ)} {s s' : σ} (hn : pool.length ≤ n)
    (hplay : (drain p n pool o).Plays others t s o' t' s') :
    ∃ es, Course others p es t s t' s' ∧ Drawn pool o es o' := by
  induction n generalizing pool o t s with
  | zero =>
    obtain ⟨rfl, rfl, rfl⟩ := plays_pure.1 hplay
    exact ⟨[], .nil, .stop (.inl (List.length_eq_zero_iff.1 (Nat.le_zero.1 hn)))⟩
  | succ n ih =>
    unfold drain at hplay
    split at hplay
    · rename_i hstop
      obtain ⟨rfl, rfl, rfl⟩ := plays_pure.1 hplay
      exact ⟨[], .nil, .stop (by simpa using hstop)⟩
    · rename_i hstop
      have hgo : pool ≠ [] ∧ o.needs.satisfied = false := by simpa using hstop
      obtain ⟨i, t₁, s₁, hdraw, hplay⟩ := plays_bind.1 hplay
      have hi : i < pool.length := (hp _ (List.length_pos_iff.2 hgo.1)).plays hdraw
      have hevent : (Event.draw pool.length i).Plays others p t s t₁ s₁ := hdraw
      cases he : swapRemove i pool with
      | none => exact absurd hi (Nat.not_lt.2 (le_of_swapRemove he))
      | some taken =>
        obtain ⟨host, rest⟩ := taken
        have hlen : rest.length ≤ n := by
          have := length_swapRemove he
          omega
        rw [he] at hplay
        dsimp only at hplay
        split at hplay
        · rename_i ha
          obtain ⟨x, t₂, s₂, hprobe, hplay⟩ := plays_bind.1 hplay
          obtain ⟨es, hes, htried⟩ := tried_of_plays ha hprobe
          cases x with
          | none =>
            obtain ⟨es', hes', hrest⟩ := ih hlen hplay
            exact ⟨_, .cons hevent (hes.append hes'), .next hgo.2 he htried hrest⟩
          | some hit =>
            obtain ⟨role, c⟩ := hit
            obtain ⟨hw, rfl⟩ := htried
            obtain ⟨_, t₃, s₃, hfound, hplay⟩ := plays_bind.1 hplay
            obtain ⟨es', hes', hrest⟩ := ih hlen hplay
            have hall := (hes.append (.cons (e := .found role c) hfound .nil)).append hes'
            exact ⟨_, .cons hevent hall, .next hgo.2 he (.useful c role ha hw) hrest⟩
        · rename_i ha
          obtain ⟨es', hes', hrest⟩ := ih hlen hplay
          exact ⟨_, .cons hevent hes', .next hgo.2 he (.passed (by simpa using ha)) hrest⟩

theorem drained_of_plays (hp : Fair p) {n : Nat} {pool : List Host} {o o' : Outcome}
    {t t' : List (Change σ)} {s s' : σ} (hn : pool.length ≤ n)
    (hplay : (drain p n pool o).Plays others t s o' t' s') :
    ∃ es, Course others p es t s t' s' ∧ Drained pool o es o' := by
  obtain ⟨es, hcourse, hdrawn⟩ := drawn_of_plays hp hn hplay
  exact ⟨es, hcourse, hdrawn.drained⟩

section Tally
variable {h : Host} {pool : List Host} {o o' : Outcome} {es : List Event}

theorem Tried.left (ht : Tried h o es o') : o'.needs = left o.needs es := by
  cases ht <;> rfl

theorem Tried.handed (ht : Tried h o es o') : o'.found = o.found ++ handed es := by
  cases ht <;> simp [Search.handed]

theorem Tried.contacts (ht : Tried h o es o') :
    contacts es = if o.needs.accepts h then [h] else [] := by
  cases ht <;> simp [Search.contacts, *]

theorem Tried.disposed (ht : Tried h o es o') (c : Handle) :
    (opened es).count c = (closed es).count c + ((Search.handed es).map (·.2)).count c := by
  cases ht <;> simp [opened, closed, Search.handed]

theorem Tried.failed_append (ht : Tried h o es o') (es' : List Event) :
    failed (es ++ es') = excluded es ++ failed es' := by
  cases ht <;> simp [failed, excluded]

/-- Before the search goes on to something it still needs a role, and it tries a host, and hands a
connection over, only for a role that it needs. -/
def Fitting (needs : Needs) (before : List Event) (e : Event) : Prop :=
  (left needs before).satisfied = false ∧ match e with
    | .connect h _ => (left needs before).accepts h = true
    | .found role c => (left needs before).wants role = true ∧ ∃ earlier h,
        before = earlier ++ [.connect h (.ok c), .check c (.ok role)]
    | _ => True

theorem Fitting.append (needs : Needs) {before : List Event} {e : Event} (es : List Event)
    (hf : Fitting (Search.left needs es) before e) : Fitting needs (es ++ before) e := by
  unfold Fitting at hf ⊢
  rw [left_append]
  refine ⟨hf.1, ?_⟩
  cases e with
  | found role c =>
    obtain ⟨hw, earlier, h, rfl⟩ := hf.2
    exact ⟨hw, es ++ earlier, h, (List.append_assoc es earlier _).symm⟩
  | _ => exact hf.2

theorem Tried.fitting (ht : Tried h o es o') (hn : o.needs.satisfied = false) :
    Everywhere (Fitting o.needs) es := by
  cases ht with
  | passed _ => trivial
  | refused x ha => exact ⟨⟨hn, ha⟩, ⟨hn, trivial⟩, trivial⟩
  | unsure c x ha => exact ⟨⟨hn, ha⟩, ⟨hn, trivial⟩, ⟨hn, trivial⟩, ⟨hn, trivial⟩, trivial⟩
  | useless c role ha hw => exact ⟨⟨hn, ha⟩, ⟨hn, trivial⟩, ⟨hn, trivial⟩, trivial⟩
  | useful c role ha hw => exact ⟨⟨hn, ha⟩, ⟨hn, trivial⟩, ⟨hn, hw, [], h, rfl⟩, trivial⟩

theorem Drained.left (hd : Drained pool o es o') : o'.needs = left o.needs es := by
  induction hd with
  | stop _ => rfl
  | next i _ _ ht _ ih =>
    rw [ih, ht.left, ← left_append]
    rfl

theorem Drained.handed (hd : Drained pool o es o') : o'.found = o.found ++ handed es := by
  induction hd with
  | stop _ => simp [Search.handed]
  | next i _ _ ht _ ih =>
    rw [ih, ht.handed]
    simp [Search.handed]

theorem Drained.contacts (hd : Drained pool o es o') : (contacts es).Subperm pool := by
  induction hd with
  | stop _ => exact List.nil_subperm
  | @next h rest pool o o₁ o' es es' i _ hperm ht _ ih =>
    have hone : (Search.contacts es).Subperm [h] := by
      rw [ht.contacts]
      split
      · exact List.Subperm.refl _
      · exact List.nil_subperm
    have hall : (Search.contacts es ++ Search.contacts es').Subperm ([h] ++ rest) := hone.append ih
    simpa [Search.contacts] using hall.trans hperm.subperm

/-- A pass that ends with a role missing has tried all hosts of its pool that might still serve it.
-/
theorem Drained.thorough (hd : Drained pool o es o') (hn : o'.needs.satisfied = false) :
    (pool.filter o'.needs.accepts).Subperm (Search.contacts es) := by
  induction hd with
  | stop hstop =>
    rw [hstop.resolve_right (by simp [hn])]
    exact List.nil_subperm
  | @next h rest pool o o₁ o' es es' i _ hperm ht hd ih =>
    have hone : ([h].filter o'.needs.accepts).Subperm (Search.contacts es) := by
      cases ha : o'.needs.accepts h with
      | false => simp [ha]
      | true =>
        rw [hd.left, ht.left] at ha
        simp [ht.contacts, accepts_of_left (accepts_of_left ha)]
    have hall := hone.append (ih hn)
    rw [← List.filter_append] at hall
    have hsub := (hperm.filter o'.needs.accepts).symm.subperm.trans hall
    simpa [Search.contacts] using hsub

theorem Drained.disposed (hd : Drained pool o es o') (c : Handle) :
    (opened es).count c = (closed es).count c + ((Search.handed es).map (·.2)).count c := by
  induction hd with
  | stop _ => rfl
  | @next h rest pool o o₁ o' es es' i _ _ ht _ ih =>
    have hone := ht.disposed c
    simp only [opened, closed, Search.handed, List.filterMap_cons, List.filterMap_append,
      List.map_append, List.count_append] at hone ih ⊢
    omega

theorem Drained.failed_append (hd : Drained pool o es o') (es' : List Event) :
    failed (es ++ es') = excluded es ++ failed es' := by
  induction hd with
  | stop _ => rfl
  | next i _ _ ht _ ih =>
    simp only [failed, List.cons_append, List.append_assoc, ht.failed_append, ih]
    simp [excluded]

theorem Drained.fitting (hd : Drained pool o es o') : Everywhere (Fitting o.needs) es := by
  induction hd with
  | stop _ => trivial
  | @next h rest pool o o₁ o' es es' i hn _ ht _ ih =>
    refine ⟨⟨hn, trivial⟩, everywhere_append.2 ⟨?_, ?_⟩⟩
    · exact (ht.fitting hn).imp fun before e hf =>
        Fitting.append o.needs [.draw pool.length i] hf
    · refine ih.imp fun before e hf => ?_
      rw [ht.left] at hf
      exact Fitting.append o.needs (.draw pool.length i :: es) hf

theorem nodup_handed {needs : Needs} (hf : Everywhere (Fitting needs) es) :
    ((Search.handed es).map (·.1)).Nodup := by
  induction es using List.reverseRecOn with
  | nil => exact List.nodup_nil
  | append_singleton es e ih =>
    obtain ⟨hes, he, -⟩ := everywhere_append.1 hf
    rw [List.append_nil] at he
    cases e with
    | found role c =>
      have hnew : role ∉ (Search.handed es).map (·.1) := by
        intro hmem
        obtain ⟨⟨_, c'⟩, hc, rfl⟩ := List.mem_map.1 hmem
        exact ((wants_left needs es _).1 he.2.1).2 c' hc
      have hall : ((Search.handed es).map (·.1) ++ [role]).Nodup := by
        refine List.nodup_append.2 ⟨ih hes, List.pairwise_singleton _ role, fun x hx y hy he => ?_⟩
        rw [he, List.mem_singleton.1 hy] at hx
        exact hnew hx
      simpa [Search.handed] using hall
    | _ => simpa [Search.handed] using ih hes

end Tally

/-- A search that did no more than it should: these are its calls, and this is how it ended. -/
structure Disciplined (b : Blacklist) (candidates : List Host) (needs : Needs) (o : Outcome)
    (es : List Event) : Prop where
  /-- No entry of the candidates is tried twice. -/
  once : (contacts es).Subperm candidates
  /-- At most one connection is handed over for a role. -/
  single : ((handed es).map (·.1)).Nodup
  /-- That is one for a role that was needed, which its host has just been found to serve. -/
  fitting : ∀ before role c after, es = before ++ .found role c :: after →
    needs.wants role = true ∧
      ∃ earlier h, before = earlier ++ [.connect h (.ok c), .check c (.ok role)]
  handed : o.found = handed es
  /-- A need is cleared when a connection is handed over for it, and not otherwise. -/
  cleared : ∀ role, o.needs.wants role = true ↔
    needs.wants role = true ∧ ∀ c, (role, c) ∉ Search.handed es
  /-- Nothing is done any more once nothing is needed. -/
  needed : ∀ before e after, es = before ++ e :: after → (left needs before).satisfied = false
  worth : ∀ before h x after, es = before ++ .connect h x :: after →
    (left needs before).accepts h = true
  /-- What is opened is either closed or handed over. -/
  disposed : ∀ c, (opened es).count c =
    (closed es).count c + ((Search.handed es).map (·.2)).count c
  excluded : excluded es = failed es
  /-- Hosts that were left out are tried only when all others that might still serve a missing role
  have been. -/
  lastResort : ∃ first second, es = first ++ second ∧
    (∀ h ∈ contacts first, b.contains h.endpoint = false) ∧
    (∀ h ∈ contacts second, b.contains h.endpoint = true) ∧
    (second ≠ [] → (left needs first).satisfied = false ∧
      ((candidates.filter fun h => !b.contains h.endpoint).filter
        (left needs first).accepts).Subperm (contacts first))

theorem disciplined_of_drained {b : Blacklist} {candidates late : List Host} {needs : Needs}
    {o o' : Outcome} {first second : List Event}
    (hfirst : Drained ((candidates.filter fun h => !b.contains h.endpoint).filter needs.accepts)
      { needs } first o)
    (hlate : late.Sublist (candidates.filter fun h => b.contains h.endpoint))
    (hsecond : Drained late o second o') (hgo : second ≠ [] → o.needs.satisfied = false) :
    Disciplined b candidates needs o' (first ++ second) := by
  have hleft : o.needs = left needs first := hfirst.left
  have hend : o'.needs = left needs (first ++ second) := by
    rw [left_append, ← hleft]
    exact hsecond.left
  have hall : Everywhere (Fitting needs) (first ++ second) := by
    have hlater := hsecond.fitting
    rw [hleft] at hlater
    exact everywhere_append.2 ⟨hfirst.fitting, hlater.imp fun _ _ => Fitting.append _ first⟩
  have htried : (contacts first).Subperm (candidates.filter fun h => !b.contains h.endpoint) :=
    hfirst.contacts.trans List.filter_sublist.subperm
  have hretried : (contacts second).Subperm (candidates.filter fun h => b.contains h.endpoint) :=
    hsecond.contacts.trans hlate.subperm
  constructor
  · have hboth : (contacts first ++ contacts second).Subperm candidates :=
      (htried.append hretried).trans
        (List.perm_append_comm.trans (List.filter_append_perm _ candidates)).subperm
    simpa [contacts] using hboth
  · exact nodup_handed hall
  · intro before role c after he
    obtain ⟨-, hw, hlast⟩ := hall.split he
    exact ⟨((wants_left needs before role).1 hw).1, hlast⟩
  · rw [hsecond.handed, hfirst.handed]
    simp [Search.handed]
  · intro role
    rw [hend]
    exact wants_left needs _ role
  · exact fun before e after he => (hall.split he).1
  · exact fun before h x after he => (hall.split he).2
  · intro c
    have hearly := hfirst.disposed c
    have hlater := hsecond.disposed c
    simp only [opened, closed, Search.handed, List.filterMap_append, List.map_append,
      List.count_append] at hearly hlater ⊢
    omega
  · have hlater := hsecond.failed_append []
    simp only [List.append_nil, failed] at hlater
    rw [hfirst.failed_append, hlater]
    simp [Search.excluded]
  · refine ⟨first, second, rfl, fun h hh => ?_, fun h hh => ?_, fun hne => ?_⟩
    · simpa using (List.mem_filter.1 (htried.subset hh)).2
    · simpa using (List.mem_filter.1 (hretried.subset hh)).2
    · have hn := hgo hne
      have hthorough := hfirst.thorough hn
      rw [List.filter_filter, hleft] at hthorough
      refine ⟨hleft ▸ hn, ?_⟩
      convert hthorough using 3
      rename_i h
      cases ha : (left needs first).accepts h with
      | false => rfl
      | true => simp [accepts_of_left ha]

theorem disciplined_of_plays (hp : Fair p) {b : Blacklist} {candidates : List Host} {needs : Needs}
    {o : Outcome} {t t' : List (Change σ)} {s s' : σ}
    (hplay : (twoPass p b candidates needs).Plays others t s o t' s') :
    ∃ es, Course others p es t s t' s' ∧ Disciplined b candidates needs o es := by
  unfold twoPass at hplay
  rw [List.partition_eq_filter_filter] at hplay
  obtain ⟨o₁, t₁, s₁, hpass, hplay⟩ := plays_bind.1 hplay
  obtain ⟨first, hcourse, hfirst⟩ := drained_of_plays hp (Nat.le_refl _) hpass
  split at hplay
  · obtain ⟨rfl, rfl, rfl⟩ := plays_pure.1 hplay
    refine ⟨first ++ [], by rwa [List.append_nil], ?_⟩
    exact disciplined_of_drained hfirst (List.nil_sublist _) (.stop (.inl rfl)) (by simp)
  · rename_i hmore
    obtain ⟨second, hcourse', hsecond⟩ := drained_of_plays hp (Nat.le_refl _) hplay
    refine ⟨first ++ second, hcourse.append hcourse', ?_⟩
    exact disciplined_of_drained hfirst List.filter_sublist hsecond fun _ => by
      simp only [Bool.or_eq_true, not_or, Bool.not_eq_true] at hmore
      exact hmore.1

/-- The list of excluded servers is a part of the state: the prober adds to it the host that it is
told to leave out, and nothing else that it does is seen there. -/
structure Tallies (view : σ → Blacklist) (others : σ → σ → Prop) (p : Prober σ ℓ κ) : Prop where
  stays : ∀ (e : Event) t s t' s', (∀ h, e ≠ .exclude h) → e.Plays others p t s t' s' →
    view s' = view s
  adds : ∀ h t s t' s', (Event.exclude h).Plays others p t s t' s' → ∀ x,
    (view s').contains x = true ↔ (view s).contains x = true ∨ h.endpoint = x

theorem Course.tally {view : σ → Blacklist} {es : List Event} {t t' : List (Change σ)} {s s' : σ}
    (hv : Tallies view others p) (h : Course others p es t s t' s') (x : Endpoint) :
    (view s').contains x = true ↔
      (view s).contains x = true ∨ ∃ h ∈ excluded es, h.endpoint = x := by
  induction h with
  | nil => simp [excluded]
  | @cons e es t t₁ t' s s₁ s' he _ ih =>
    cases e with
    | exclude h =>
      rw [ih, hv.adds h t s t₁ s₁ he x]
      simp [excluded, or_assoc]
    | _ =>
      rw [ih, hv.stays _ t s t₁ s₁ (by simp) he]
      rfl

/-- A search comes to an end, and whatever its calls answer it is disciplined. Afterwards those
hosts are left out that were left out before, and those that failed it. -/
theorem search_disciplined (hp : Fair p) (others : σ → σ → Prop) (b : Blacklist)
    (candidates : List Host) (needs : Needs) (t : List (Change σ)) (s : σ) :
    (∃ o t' s', (twoPass p b candidates needs).Plays others t s o t' s') ∧
      ∀ o t' s', (twoPass p b candidates needs).Plays others t s o t' s' →
        ∃ es, Course others p es t s t' s' ∧ Disciplined b candidates needs o es ∧
          ∀ view, Tallies view others p → ∀ x, (view s').contains x = true ↔
            (view s).contains x = true ∨ ∃ h ∈ failed es, h.endpoint = x := by
  refine ⟨exists_plays others _ t s, fun o t' s' hplay => ?_⟩
  obtain ⟨es, hcourse, hes⟩ := disciplined_of_plays hp hplay
  refine ⟨es, hcourse, hes, fun view hv x => ?_⟩
  rw [hcourse.tally hv, hes.excluded]

end Passes

section Network
open Network
variable {ℓ κ : Type}

theorem fair_prober (mode : Mode) (r : Registry) : Fair (prober mode r : Prober Network ℓ κ) :=
  fun _ hsize _ _ => Nat.mod_lt _ hsize

theorem contains_add (b : Blacklist) (e : Endpoint) (time : Int) (x : Endpoint) :
    (b.add e time).contains x = true ↔ b.contains x = true ∨ e = x := by
  simp only [Blacklist.contains, Blacklist.add, Blacklist.remove, List.any_append, List.any_cons,
    List.any_nil, List.any_filter, Bool.or_false, Bool.or_eq_true, List.any_eq_true, beq_iff_eq,
    Bool.and_eq_true, bne_iff_ne]
  by_cases he : e = x
  · simp [he]
  · constructor
    · intro hd
      obtain ⟨y, hy, -, hx⟩ := hd.resolve_right he
      exact .inl ⟨y, hy, hx⟩
    · intro hd
      obtain ⟨y, hy, rfl⟩ := hd.resolve_right he
      exact .inl ⟨y, hy, Ne.symm he, rfl⟩

/-- To those who see no more of a network than its blacklists and the draws to come, a search over
it does nothing but draw and leave hosts out. -/
theorem stays_prober {β : Type} {view : Network → β} {others : Network → Network → Prop}
    {mode : Mode} {r : Registry} {e : Event} {t t' : List (Change Network)} {n n' : Network}
    (hview : ∀ n n' : Network, n'.draws = n.draws → (∀ r, n'.blacklist r = n.blacklist r) →
      view n' = view n)
    (ho : ∀ n n', others n n' → view n' = view n) (hdraw : ∀ size i, e ≠ .draw size i)
    (hexclude : ∀ h, e ≠ .exclude h)
    (hplay : e.Plays others (prober mode r : Prober Network ℓ κ) t n t' n') : view n' = view n := by
  let ok : Network → Network → Prop := fun n n' => view n' = view n
  have hkept {α : Type} {c : NetRoutine ℓ κ α} (hc : c.Steps ok) {a : α}
      {t t' : List (Change Network)} {n n' : Network} (hplay : c.Plays others t n a t' n') :
      view n' = view n :=
    (hc.ensures (ρ := ⟨others, fun _ _ => True⟩) (F := fun _ n' => view n' = view n)
      (fun _ _ _ _ h hs => (ho _ _ hs).trans h) (fun _ _ _ _ h hs => ⟨trivial, hs.trans h⟩)
      rfl).plays hplay
  have hmeet (c : Call) (e : Endpoint) (n : Network) : ok n (n.meet e c).2 := by
    simp only [ok, meet]
    split
    · rfl
    · split
      · rfl
      · exact hview _ _ rfl fun r => by cases r <;> rfl
  have hconnect (h : Host) (n : Network) : ok n (n.connect h).2 := by
    simp only [ok, Network.connect]
    split
    · rfl
    · split <;> exact hview _ _ rfl fun r => by cases r <;> rfl
  have hsettings (f : Connection → Connection) (h : Handle) (n : Network) :
      ok n (n.updateConnection h f) := hview _ _ rfl fun r => by cases r <;> rfl
  have : AllowsCalls ok :=
    ⟨fun _ => rfl, fun h h' => h'.trans h, hmeet,
      fun _ _ _ => hview _ _ rfl fun r => by cases r <;> rfl, fun _ _ => hsettings _⟩
  have : AllowsSettings ok := ⟨fun _ => hsettings _⟩
  cases e with
  | draw size i => exact (hdraw size i rfl).elim
  | connect h x => exact hkept (Calls.steps_onHost (hmeet _ _) (hconnect h)) hplay
  | check c x => exact hkept (Calls.keeps_role _ c) hplay
  | close c => exact hkept (steps_change fun _ n => hsettings _ c n) hplay
  | exclude h => exact (hexclude h rfl).elim
  | found role c =>
    cases hplay
    rfl

theorem tallies_prober (mode : Mode) (r : Registry) {others : Network → Network → Prop}
    (ho : ∀ n n', others n n' → n'.blacklist r = n.blacklist r) :
    Tallies (·.blacklist r) others (prober mode r : Prober Network ℓ κ) := by
  constructor
  · intro e t n t' n' he hplay
    by_cases hdraw : ∃ size i, e = .draw size i
    · obtain ⟨size, i, rfl⟩ := hdraw
      obtain ⟨now, -, -, rfl⟩ := plays_transact.1 hplay
      cases r <;> rfl
    · refine stays_prober (fun _ _ _ hb => hb r) ho (fun size i hd => ?_) he hplay
      exact hdraw ⟨size, i, hd⟩
  · intro h t n t' n' hplay x
    obtain ⟨now, -, rfl⟩ := plays_change.1 hplay
    cases r <;> exact contains_add _ h.endpoint now x

/-- One replica is down and the primary is left out: the other replica is found, and the primary
then as a last resort. -/
theorem search_disciplined_last_resort :
    let down := (Cluster.ofHosts (Cluster.replicationHosts 2)).stop ⟨"mock-1", 3307⟩
    let n₀ : Network := { cluster := down, ownBlacklist := ⟨[(⟨"mock-0", 3306⟩, 0)]⟩ }
    let p : Prober Network Unit Unit := prober .replication .own
    let hosts := (Cluster.replicationHosts 2).map (·.1)
    Fair p ∧ Tallies (·.blacklist .own) (fun n n' => n' = n) p ∧ ∃ o t n es,
      (twoPass p n₀.ownBlacklist hosts ⟨true, true⟩).Plays (fun n n' => n' = n) [] n₀ o t n ∧
      o.found.length = 2 ∧ Course (fun n n' => n' = n) p es [] n₀ t n ∧
      Disciplined n₀.ownBlacklist hosts ⟨true, true⟩ o es ∧
      ∃ h ∈ failed es, h.endpoint = ⟨"mock-1", 3307⟩ := by
  intro down n₀ p hosts
  have hv : Tallies (·.blacklist .own) (fun n n' => n' = n) p :=
    tallies_prober .replication .own fun _ _ he => by rw [he]
  have hplay := plays_alone (fun n n' => n' = n) 0 (twoPass p n₀.ownBlacklist hosts ⟨true, true⟩) []
    n₀
  obtain ⟨es, hcourse, hes, htally⟩ := (search_disciplined (fair_prober .replication .own)
    (fun n n' => n' = n) n₀.ownBlacklist hosts ⟨true, true⟩ [] n₀).2 _ _ _ hplay
  refine ⟨fair_prober .replication .own, hv, _, _, _, es, hplay, by decide +kernel, hcourse, hes, ?_⟩
  refine ((htally _ hv ⟨"mock-1", 3307⟩).1 (by decide +kernel)).resolve_left ?_
  decide +kernel

end Network
end Failover.Search
