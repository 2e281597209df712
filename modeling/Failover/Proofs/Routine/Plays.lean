import Failover.Routine

/-!
Routines amid others: how a routine goes on when the state may change under it whenever it waits,
and what it brings about whatever the others do.
-/
namespace Failover

/-- One change of a state: whether the routine that is looked at made it, when, and of what. -/
structure Change (σ : Type) where
  own : Bool
  time : Nat
  before : σ
  after : σ

def Change.map {σ τ : Type} (get : τ → σ) (c : Change τ) : Change σ :=
  ⟨c.own, c.time, get c.before, get c.after⟩

/-- Others change the state any number of times. A log holds its latest change first. -/
inductive Amid {σ : Type} (others : σ → σ → Prop) (t : List (Change σ)) (s : σ) :
    List (Change σ) → σ → Prop
  | rest : Amid others t s t s
  | more {t' : List (Change σ)} {s' s'' : σ} (time : Nat) :
      Amid others t s t' s' → others s' s'' → Amid others t s (⟨false, time, s', s''⟩ :: t') s''

/-- What others keep step by step they keep altogether. -/
theorem Amid.preserves {σ : Type} {others : σ → σ → Prop} {P : List (Change σ) → σ → Prop}
    (step : ∀ t s s' time, P t s → others s s' → P (⟨false, time, s, s'⟩ :: t) s')
    {t t' : List (Change σ)} {s s' : σ} (h : Amid others t s t' s') (hp : P t s) : P t' s' := by
  induction h with
  | rest => exact hp
  | more time _ ho ih => exact step _ _ _ _ ih ho

theorem Amid.head {σ : Type} {others : σ → σ → Prop} {t t' : List (Change σ)} {s s' s'' : σ}
    (time : Nat) (ho : others s s') (h : Amid others (⟨false, time, s, s'⟩ :: t) s' t' s'') :
    Amid others t s t' s'' :=
  h.preserves (P := fun t' s'' => Amid others t s t' s'') (fun _ _ _ time h ho => .more time h ho)
    (.more time .rest ho)

namespace Routine
variable {σ τ ℓ κ α β : Type}

/-- A routine comes to its end with an answer, adding its changes and those of others to a log.
Others come in where it waits, and where it asks for a lock. -/
inductive Plays (others : σ → σ → Prop) :
    Routine σ ℓ κ α → List (Change σ) → σ → α → List (Change σ) → σ → Prop
  | done (a : α) (t : List (Change σ)) (s : σ) : Plays others (.done a) t s a t s
  | act {step : Nat → σ → σ} {next : Nat → σ → Routine σ ℓ κ α} {t t' : List (Change σ)}
      {s s' : σ} {a : α} (now : Nat)
      (h : Plays others (next now s) (⟨true, now, s, step now s⟩ :: t) (step now s) a t' s') :
      Plays others (.act step next) t s a t' s'
  | goOn {next : Routine σ ℓ κ α} {t t' : List (Change σ)} {s s' : σ} {a : α}
      (h : Plays others next t s a t' s') : Plays others (.wait 0 next) t s a t' s'
  | wait {ms : Nat} {next : Routine σ ℓ κ α} {t t₁ t' : List (Change σ)} {s s₁ s' : σ} {a : α}
      (hms : 0 < ms) (ho : Amid others t s t₁ s₁) (h : Plays others next t₁ s₁ a t' s') :
      Plays others (.wait ms next) t s a t' s'
  | acquire {l : ℓ} {next : Routine σ ℓ κ α} {t t₁ t' : List (Change σ)} {s s₁ s' : σ} {a : α}
      (ho : Amid others t s t₁ s₁) (h : Plays others next t₁ s₁ a t' s') :
      Plays others (.acquire l next) t s a t' s'
  | release {l : ℓ} {next : Routine σ ℓ κ α} {t t' : List (Change σ)} {s s' : σ} {a : α}
      (h : Plays others next t s a t' s') : Plays others (.release l next) t s a t' s'
  | start {j : κ} {next : Routine σ ℓ κ α} {t t' : List (Change σ)} {s s' : σ} {a : α}
      (h : Plays others next t s a t' s') : Plays others (.start j next) t s a t' s'

variable {others : σ → σ → Prop}

/-- The play of a routine at one time, with nobody else about. -/
def alone (now : Nat) : Routine σ ℓ κ α → List (Change σ) → σ → α × List (Change σ) × σ
  | .done a, t, s => (a, t, s)
  | .act step next, t, s => (next now s).alone now (⟨true, now, s, step now s⟩ :: t) (step now s)
  | .wait _ next, t, s => next.alone now t s
  | .acquire _ next, t, s => next.alone now t s
  | .release _ next, t, s => next.alone now t s
  | .start _ next, t, s => next.alone now t s

theorem plays_alone (others : σ → σ → Prop) (now : Nat) (r : Routine σ ℓ κ α)
    (t : List (Change σ)) (s : σ) :
    r.Plays others t s (r.alone now t s).1 (r.alone now t s).2.1 (r.alone now t s).2.2 := by
  induction r generalizing t s with
  | done a => exact .done a t s
  | act step next ih => exact .act now (ih now s _ _)
  | wait ms next ih =>
    rcases Nat.eq_zero_or_pos ms with rfl | hms
    · exact .goOn (ih t s)
    · exact .wait hms .rest (ih t s)
  | acquire l next ih => exact .acquire .rest (ih t s)
  | release l next ih => exact .release (ih t s)
  | start j next ih => exact .start (ih t s)

theorem alone_log (now : Nat) (r : Routine σ ℓ κ α) (t : List (Change σ)) (s : σ) :
    ∃ es, (r.alone now t s).2.1 = es ++ t ∧ ∀ e ∈ es, e.time = now := by
  induction r generalizing t s with
  | done a => exact ⟨[], rfl, nofun⟩
  | act step next ih =>
    obtain ⟨es, hes, htime⟩ := ih now s (⟨true, now, s, step now s⟩ :: t) (step now s)
    refine ⟨es ++ [⟨true, now, s, step now s⟩], hes.trans (List.append_cons es _ t), fun e he => ?_⟩
    rcases List.mem_append.1 he with he | he
    · exact htime e he
    · rw [List.mem_singleton.1 he]
  | wait ms next ih => exact ih t s
  | acquire l next ih => exact ih t s
  | release l next ih => exact ih t s
  | start j next ih => exact ih t s

theorem exists_plays (others : σ → σ → Prop) (r : Routine σ ℓ κ α) (t : List (Change σ)) (s : σ) :
    ∃ a t' s', r.Plays others t s a t' s' :=
  ⟨_, _, _, plays_alone others 0 r t s⟩

theorem plays_bind {r : Routine σ ℓ κ α} {f : α → Routine σ ℓ κ β} {t t' : List (Change σ)}
    {s s' : σ} {b : β} :
    (r >>= f).Plays others t s b t' s' ↔
      ∃ a t₁ s₁, r.Plays others t s a t₁ s₁ ∧ (f a).Plays others t₁ s₁ b t' s' := by
  change (r.andThen f).Plays others t s b t' s' ↔ _
  constructor
  · intro h
    induction r generalizing t s with
    | done a => exact ⟨a, t, s, .done a t s, h⟩
    | act step next ih =>
      cases h with
      | act now h =>
        obtain ⟨a, t₁, s₁, h₁, h₂⟩ := ih now s h
        exact ⟨a, t₁, s₁, .act now h₁, h₂⟩
    | wait ms next ih =>
      cases h with
      | goOn h =>
        obtain ⟨a, t₁, s₁, h₁, h₂⟩ := ih h
        exact ⟨a, t₁, s₁, .goOn h₁, h₂⟩
      | wait hms ho h =>
        obtain ⟨a, t₁, s₁, h₁, h₂⟩ := ih h
        exact ⟨a, t₁, s₁, .wait hms ho h₁, h₂⟩
    | acquire l next ih =>
      cases h with
      | acquire ho h =>
        obtain ⟨a, t₁, s₁, h₁, h₂⟩ := ih h
        exact ⟨a, t₁, s₁, .acquire ho h₁, h₂⟩
    | release l next ih =>
      cases h with
      | release h =>
        obtain ⟨a, t₁, s₁, h₁, h₂⟩ := ih h
        exact ⟨a, t₁, s₁, .release h₁, h₂⟩
    | start j next ih =>
      cases h with
      | start h =>
        obtain ⟨a, t₁, s₁, h₁, h₂⟩ := ih h
        exact ⟨a, t₁, s₁, .start h₁, h₂⟩
  · intro hd
    obtain ⟨a, t₁, s₁, h₁, h₂⟩ := hd
    induction h₁ with
    | done a t s => exact h₂
    | act now _ ih => exact .act now (ih h₂)
    | goOn _ ih => exact .goOn (ih h₂)
    | wait hms ho _ ih => exact .wait hms ho (ih h₂)
    | acquire ho _ ih => exact .acquire ho (ih h₂)
    | release _ ih => exact .release (ih h₂)
    | start _ ih => exact .start (ih h₂)

theorem plays_pure {a b : α} {t t' : List (Change σ)} {s s' : σ} :
    (pure a : Routine σ ℓ κ α).Plays others t s b t' s' ↔ b = a ∧ t' = t ∧ s' = s := by
  constructor
  · intro h
    cases h
    exact ⟨rfl, rfl, rfl⟩
  · intro hd
    obtain ⟨rfl, rfl, rfl⟩ := hd
    exact .done _ _ _

theorem plays_act {step : Nat → σ → σ} {next : Nat → σ → Routine σ ℓ κ α}
    {t t' : List (Change σ)} {s s' : σ} {a : α} :
    (act step next).Plays others t s a t' s' ↔
      ∃ now, (next now s).Plays others (⟨true, now, s, step now s⟩ :: t) (step now s) a t' s' := by
  constructor
  · intro h
    cases h with
    | act now h => exact ⟨now, h⟩
  · intro hd
    obtain ⟨now, h⟩ := hd
    exact .act now h

theorem plays_read {f : Nat → σ → α} {t t' : List (Change σ)} {s s' : σ} {a : α} :
    (read f : Routine σ ℓ κ α).Plays others t s a t' s' ↔
      ∃ now, a = f now s ∧ t' = ⟨true, now, s, s⟩ :: t ∧ s' = s :=
  plays_act.trans (exists_congr fun _ => plays_pure)

theorem plays_change {f : Nat → σ → σ} {t t' : List (Change σ)} {s s' : σ} {a : Unit} :
    (change f : Routine σ ℓ κ Unit).Plays others t s a t' s' ↔
      ∃ now, t' = ⟨true, now, s, f now s⟩ :: t ∧ s' = f now s :=
  plays_act.trans (exists_congr fun _ => plays_pure.trans (by simp))

theorem plays_transact {f : Nat → σ → α × σ} {t t' : List (Change σ)} {s s' : σ} {a : α} :
    (transact f : Routine σ ℓ κ α).Plays others t s a t' s' ↔
      ∃ now, a = (f now s).1 ∧ t' = ⟨true, now, s, (f now s).2⟩ :: t ∧ s' = (f now s).2 :=
  plays_act.trans (exists_congr fun _ => plays_pure)

theorem plays_locked {l : ℓ} {body : Routine σ ℓ κ α} {t t' : List (Change σ)} {s s' : σ} {a : α} :
    (locked l body).Plays others t s a t' s' ↔
      ∃ t₁ s₁, Amid others t s t₁ s₁ ∧ body.Plays others t₁ s₁ a t' s' := by
  constructor
  · intro h
    cases h with
    | acquire ho h =>
      obtain ⟨b, t₂, s₂, h₁, h₂⟩ := plays_bind.1 h
      cases h₂ with
      | release h₂ =>
        cases h₂
        exact ⟨_, _, ho, h₁⟩
  · intro hd
    obtain ⟨t₁, s₁, ho, h⟩ := hd
    exact .acquire ho (plays_bind.2 ⟨a, t', s', h, .release (.done _ _ _)⟩)

theorem amid_log {t t' : List (Change σ)} {s s' : σ} (h : Amid others t s t' s') :
    ∃ es, t' = es ++ t ∧ ∀ X : σ → σ → Prop, (∀ e ∈ es, e.own = false → X e.before e.after) →
      Amid (fun s s' => others s s' ∧ X s s') t s t' s' := by
  induction h with
  | rest => exact ⟨[], rfl, fun _ _ => .rest⟩
  | more time _ ho ih =>
    obtain ⟨es, rfl, hes⟩ := ih
    refine ⟨_ :: es, rfl, fun X hX => .more time (hes X fun e he => hX e ?_) ⟨ho, ?_⟩⟩
    · exact List.mem_cons_of_mem _ he
    · exact hX _ List.mem_cons_self rfl

/-- A play adds to the log, and it is one amid all that the others in it have in common. -/
theorem Plays.log {r : Routine σ ℓ κ α} {t t' : List (Change σ)} {s s' : σ} {a : α}
    (h : r.Plays others t s a t' s') :
    ∃ es, t' = es ++ t ∧ ∀ X : σ → σ → Prop, (∀ e ∈ es, e.own = false → X e.before e.after) →
      r.Plays (fun s s' => others s s' ∧ X s s') t s a t' s' := by
  have after {es es' : List (Change σ)} {X : σ → σ → Prop}
      (hX : ∀ e ∈ es ++ es', e.own = false → X e.before e.after) :
      (∀ e ∈ es, e.own = false → X e.before e.after) ∧
        ∀ e ∈ es', e.own = false → X e.before e.after :=
    ⟨fun e he => hX e (List.mem_append_left _ he), fun e he => hX e (List.mem_append_right _ he)⟩
  induction h with
  | done a t s => exact ⟨[], rfl, fun _ _ => .done a t s⟩
  | act now _ ih =>
    obtain ⟨es, rfl, hes⟩ := ih
    exact ⟨_, List.append_cons es _ _, fun X hX => .act now (hes X (after hX).1)⟩
  | goOn _ ih =>
    obtain ⟨es, rfl, hes⟩ := ih
    exact ⟨es, rfl, fun X hX => .goOn (hes X hX)⟩
  | wait hms ho _ ih =>
    obtain ⟨es, rfl, hes⟩ := ih
    obtain ⟨es', rfl, hes'⟩ := amid_log ho
    exact ⟨es ++ es', by simp, fun X hX => .wait hms (hes' X (after hX).2) (hes X (after hX).1)⟩
  | acquire ho _ ih =>
    obtain ⟨es, rfl, hes⟩ := ih
    obtain ⟨es', rfl, hes'⟩ := amid_log ho
    exact ⟨es ++ es', by simp, fun X hX => .acquire (hes' X (after hX).2) (hes X (after hX).1)⟩
  | release _ ih =>
    obtain ⟨es, rfl, hes⟩ := ih
    exact ⟨es, rfl, fun X hX => .release (hes X hX)⟩
  | start _ ih =>
    obtain ⟨es, rfl, hes⟩ := ih
    exact ⟨es, rfl, fun X hX => .start (hes X hX)⟩

end Routine
end Failover
