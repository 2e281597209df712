import Failover.Proofs.Routine.Ensures

/-!
What a routine does step by step, whatever the state in which a step is taken. What every step keeps
is kept by the whole.
-/
namespace Failover.Routine
variable {σ τ ℓ ℓ' κ κ' α β : Type} {ok : σ → σ → Prop}

/-- Every step that the routine can take is allowed, and it takes no lock. -/
def Steps (ok : σ → σ → Prop) : Routine σ ℓ κ α → Prop
  | .done _ => True
  | .act step next => ∀ now s, ok s (step now s) ∧ (next now s).Steps ok
  | .wait _ next => next.Steps ok
  | .acquire _ _ => False
  | .release _ _ => False
  | .start _ next => next.Steps ok

theorem Steps.mono {ok' : σ → σ → Prop} {r : Routine σ ℓ κ α} (h : r.Steps ok)
    (hok : ∀ s s', ok s s' → ok' s s') : r.Steps ok' := by
  induction r with
  | done a => trivial
  | act step next ih => exact fun now s => ⟨hok _ _ (h now s).1, ih now s (h now s).2⟩
  | wait ms next ih => exact ih h
  | acquire l next => exact h
  | release l next => exact h
  | start j next ih => exact ih h

theorem Steps.and {ok' : σ → σ → Prop} {r : Routine σ ℓ κ α} (h : r.Steps ok) (h' : r.Steps ok') :
    r.Steps fun s s' => ok s s' ∧ ok' s s' := by
  induction r with
  | done a => trivial
  | act step next ih =>
    exact fun now s => ⟨⟨(h now s).1, (h' now s).1⟩, ih now s (h now s).2 (h' now s).2⟩
  | wait ms next ih => exact ih h h'
  | acquire l next => exact h
  | release l next => exact h
  | start j next ih => exact ih h h'

theorem Steps.bind {r : Routine σ ℓ κ α} {f : α → Routine σ ℓ κ β} (h : r.Steps ok)
    (hf : ∀ a, (f a).Steps ok) : (r >>= f).Steps ok := by
  change (r.andThen f).Steps ok
  induction r with
  | done a => exact hf a
  | act step next ih => exact fun now s => ⟨(h now s).1, ih now s (h now s).2⟩
  | wait ms next ih => exact ih h
  | acquire l next => exact h.elim
  | release l next => exact h.elim
  | start j next ih => exact ih h

theorem steps_read {f : Nat → σ → α} (h : ∀ s, ok s s) :
    (read f : Routine σ ℓ κ α).Steps ok := fun _ s => ⟨h s, trivial⟩

theorem steps_change {f : Nat → σ → σ} (h : ∀ now s, ok s (f now s)) :
    (change f : Routine σ ℓ κ Unit).Steps ok := fun now s => ⟨h now s, trivial⟩

theorem steps_transact {f : Nat → σ → α × σ} (h : ∀ now s, ok s (f now s).2) :
    (transact f : Routine σ ℓ κ α).Steps ok := fun now s => ⟨h now s, trivial⟩

theorem steps_pause (ms : Nat) : (pause ms : Routine σ ℓ κ Unit).Steps ok := trivial

theorem Steps.discard {r : Routine σ ℓ κ α} (h : r.Steps ok) : (discard r).Steps ok :=
  Steps.bind (f := fun _ => .done ()) h fun _ => trivial

theorem Steps.thenOk {r : Routine σ ℓ κ (Except Error α)}
    {f : α → Routine σ ℓ κ (Except Error β)} (h : r.Steps ok) (hf : ∀ a, (f a).Steps ok) :
    (r.thenOk f).Steps ok := by
  refine h.bind fun x => ?_
  cases x with
  | error e => trivial
  | ok a => exact hf a

theorem steps_onSome {o : Option α} {f : α → Routine σ ℓ κ (Except Error Unit)}
    (hf : ∀ a, (f a).Steps ok) : (onSome o f).Steps ok := by
  cases o with
  | none => trivial
  | some a => exact hf a

theorem steps_forM {o : Option α} {f : α → Routine σ ℓ κ Unit} (hf : ∀ a, (f a).Steps ok) :
    (o.forM f).Steps ok := by
  cases o with
  | none => trivial
  | some a => exact hf a

theorem steps_when {c : Prop} [Decidable c] {r : Routine σ ℓ κ Unit} {k : Unit → Routine σ ℓ κ α}
    (hr : r.Steps ok) (hk : (k ()).Steps ok) : (if c then r >>= k else k ()).Steps ok := by
  split
  · exact hr.bind fun _ => hk
  · exact hk

theorem Steps.cutAt {r : Routine σ ℓ κ α} (h : r.Steps ok) (limit : Nat) :
    (r.cutAt limit).Steps ok := by
  induction r generalizing limit with
  | done a => trivial
  | act step next ih => exact fun now s => ⟨(h now s).1, ih now s (h now s).2 limit⟩
  | wait ms next ih =>
    unfold Routine.cutAt
    split
    · exact ih h (limit - ms)
    · trivial
  | acquire l next => exact h
  | release l next => exact h
  | start j next ih => exact ih h limit

theorem Steps.embed {get : τ → σ} {put : σ → τ → τ} {lock : ℓ → ℓ'} {job : κ → κ'}
    {ok' : τ → τ → Prop} (hok : ∀ u s, ok (get u) s → ok' u (put s u)) {r : Routine σ ℓ κ α}
    (h : r.Steps ok) : (r.embed get put lock job).Steps ok' := by
  induction r with
  | done a => trivial
  | act step next ih => exact fun now u => ⟨hok u _ (h now (get u)).1, ih now _ (h now (get u)).2⟩
  | wait ms next ih => exact ih h
  | acquire l next => exact h
  | release l next => exact h
  | start j next ih => exact ih h

/-- What the allowed steps and the others keep is so at the end of the routine. -/
theorem Steps.ensures {ρ : Rules σ} {F : List (Change σ) → σ → Prop} {t : List (Change σ)} {s : σ}
    {r : Routine σ ℓ κ α} (h : r.Steps ok)
    (others : ∀ t s s' now, F t s → ρ.others s s' → F (⟨false, now, s, s'⟩ :: t) s')
    (own : ∀ t s s' now, F t s → ok s s' →
      ρ.own t ⟨true, now, s, s'⟩ ∧ F (⟨true, now, s, s'⟩ :: t) s')
    (hf : F t s) : r.Ensures ρ (fun _ => F) t s := by
  induction r generalizing t s with
  | done a => exact hf
  | act step next ih =>
    intro now
    obtain ⟨hown, hf'⟩ := own t s _ now hf (h now s).1
    exact ⟨hown, ih now s (h now s).2 hf'⟩
  | wait ms next ih =>
    refine ⟨fun _ => ih h hf, fun _ t' s' ho => ih h ?_⟩
    exact ho.preserves (fun t s s' now hf ho => others t s s' now hf ho) hf
  | acquire l next => exact h.elim
  | release l next => exact h.elim
  | start j next ih => exact ih h hf

/-- Whatever the routine answers is as it should be. -/
def Answers (P : α → Prop) : Routine σ ℓ κ α → Prop
  | .done a => P a
  | .act _ next => ∀ now s, (next now s).Answers P
  | .wait _ next => next.Answers P
  | .acquire _ next => next.Answers P
  | .release _ next => next.Answers P
  | .start _ next => next.Answers P

theorem answers_true (r : Routine σ ℓ κ α) : r.Answers fun _ => True := by
  induction r with
  | done a => trivial
  | act step next ih => exact fun now s => ih now s
  | wait ms next ih => exact ih
  | acquire l next ih => exact ih
  | release l next ih => exact ih
  | start j next ih => exact ih

theorem Answers.bind {P : α → Prop} {Q : β → Prop} {r : Routine σ ℓ κ α} {f : α → Routine σ ℓ κ β}
    (h : r.Answers P) (hf : ∀ a, P a → (f a).Answers Q) : (r >>= f).Answers Q := by
  change (r.andThen f).Answers Q
  induction r with
  | done a => exact hf a h
  | act step next ih => exact fun now s => ih now s (h now s)
  | wait ms next ih => exact ih h
  | acquire l next ih => exact ih h
  | release l next ih => exact ih h
  | start j next ih => exact ih h

theorem answers_bind {Q : β → Prop} (r : Routine σ ℓ κ α) {f : α → Routine σ ℓ κ β}
    (hf : ∀ a, (f a).Answers Q) : (r >>= f).Answers Q :=
  (answers_true r).bind fun a _ => hf a

theorem Answers.embed {P : α → Prop} {get : τ → σ} {put : σ → τ → τ} {lock : ℓ → ℓ'}
    {job : κ → κ'} {r : Routine σ ℓ κ α} (h : r.Answers P) :
    (r.embed get put lock job).Answers P := by
  induction r with
  | done a => exact h
  | act step next ih => exact fun now u => ih now (get u) (h now (get u))
  | wait ms next ih => exact ih h
  | acquire l next ih => exact ih h
  | release l next ih => exact ih h
  | start j next ih => exact ih h

theorem Answers.plays {P : α → Prop} {others : σ → σ → Prop} {r : Routine σ ℓ κ α}
    {t t' : List (Change σ)} {s s' : σ} {a : α} (h : r.Answers P)
    (hp : r.Plays others t s a t' s') : P a := by
  induction hp with
  | done a t s => exact h
  | act now _ ih => exact ih (h now _)
  | goOn _ ih => exact ih h
  | wait _ _ _ ih => exact ih h
  | acquire _ _ ih => exact ih h
  | release _ ih => exact ih h
  | start _ ih => exact ih h

theorem Ensures.answers {P : α → Prop} {ρ : Rules σ} {Q : α → List (Change σ) → σ → Prop}
    {t : List (Change σ)} {s : σ} {r : Routine σ ℓ κ α} (h : r.Ensures ρ Q t s)
    (ha : r.Answers P) : r.Ensures ρ (fun a t s => P a ∧ Q a t s) t s := by
  induction r generalizing t s with
  | done a => exact ⟨ha, h⟩
  | act step next ih => exact fun now => ⟨(h now).1, ih now s (h now).2 (ha now s)⟩
  | wait ms next ih =>
    exact ⟨fun hms => ih (h.1 hms) ha, fun hms t' s' ho => ih (h.2 hms t' s' ho) ha⟩
  | acquire l next => exact h.elim
  | release l next => exact h.elim
  | start j next ih => exact ih h ha

end Failover.Routine
