import Failover.Calls
import Failover.Proofs.Routine.Plays

/-!
What a routine ensures: an assertion before it that makes every play keep to the rules and end as
wanted. It is computed along the routine, and holds of every play.
-/
namespace Failover

/-- What others may do while a routine waits, and which changes of its own may join a log. -/
structure Rules (σ : Type) where
  others : σ → σ → Prop
  own : List (Change σ) → Change σ → Prop := fun _ _ => True

namespace Routine
variable {σ τ ℓ κ α β : Type}

/-- Every play from here keeps to the rules and ends in `Q`, and takes no lock on the way. -/
def Ensures (ρ : Rules σ) :
    Routine σ ℓ κ α → (α → List (Change σ) → σ → Prop) → List (Change σ) → σ → Prop
  | .done a, Q, t, s => Q a t s
  | .act step next, Q, t, s =>
    ∀ now, ρ.own t ⟨true, now, s, step now s⟩ ∧
      (next now s).Ensures ρ Q (⟨true, now, s, step now s⟩ :: t) (step now s)
  | .wait ms next, Q, t, s =>
    (ms = 0 → next.Ensures ρ Q t s) ∧
      (0 < ms → ∀ t' s', Amid ρ.others t s t' s' → next.Ensures ρ Q t' s')
  | .acquire _ _, _, _, _ => False
  | .release _ _, _, _, _ => False
  | .start _ next, Q, t, s => next.Ensures ρ Q t s

variable {ρ : Rules σ} {t : List (Change σ)} {s : σ}

theorem Ensures.mono {r : Routine σ ℓ κ α} {Q Q' : α → List (Change σ) → σ → Prop}
    (h : r.Ensures ρ Q t s) (hq : ∀ a t s, Q a t s → Q' a t s) : r.Ensures ρ Q' t s := by
  induction r generalizing t s with
  | done a => exact hq a t s h
  | act step next ih => exact fun now => ⟨(h now).1, ih now s (h now).2⟩
  | wait ms next ih =>
    exact ⟨fun hms => ih (h.1 hms), fun hms t' s' ho => ih (h.2 hms t' s' ho)⟩
  | acquire l next => exact h
  | release l next => exact h
  | start j next ih => exact ih h

theorem ensures_bind {r : Routine σ ℓ κ α} {f : α → Routine σ ℓ κ β}
    {Q : β → List (Change σ) → σ → Prop} :
    (r >>= f).Ensures ρ Q t s ↔ r.Ensures ρ (fun a => (f a).Ensures ρ Q) t s := by
  change (r.andThen f).Ensures ρ Q t s ↔ _
  induction r generalizing t s with
  | done a => rfl
  | act step next ih => exact forall_congr' fun now => and_congr_right' (ih now s)
  | wait ms next ih =>
    exact and_congr (imp_congr_right fun _ => ih)
      (imp_congr_right fun _ => forall_congr' fun _ => forall_congr' fun _ =>
        imp_congr_right fun _ => ih)
  | acquire l next => rfl
  | release l next => rfl
  | start j next ih => exact ih

theorem Ensures.bind {r : Routine σ ℓ κ α} {f : α → Routine σ ℓ κ β}
    {P : α → List (Change σ) → σ → Prop} {Q : β → List (Change σ) → σ → Prop}
    (h : r.Ensures ρ P t s) (hf : ∀ a t s, P a t s → (f a).Ensures ρ Q t s) :
    (r >>= f).Ensures ρ Q t s :=
  ensures_bind.2 (h.mono hf)

theorem ensures_pure {a : α} {Q : α → List (Change σ) → σ → Prop} :
    (pure a : Routine σ ℓ κ α).Ensures ρ Q t s ↔ Q a t s := Iff.rfl

theorem ensures_read {f : Nat → σ → α} {Q : α → List (Change σ) → σ → Prop} :
    (read f : Routine σ ℓ κ α).Ensures ρ Q t s ↔
      ∀ now, ρ.own t ⟨true, now, s, s⟩ ∧ Q (f now s) (⟨true, now, s, s⟩ :: t) s := Iff.rfl

theorem ensures_change {f : Nat → σ → σ} {Q : Unit → List (Change σ) → σ → Prop} :
    (change f : Routine σ ℓ κ Unit).Ensures ρ Q t s ↔
      ∀ now, ρ.own t ⟨true, now, s, f now s⟩ ∧
        Q () (⟨true, now, s, f now s⟩ :: t) (f now s) := Iff.rfl

theorem ensures_transact {f : Nat → σ → α × σ} {Q : α → List (Change σ) → σ → Prop} :
    (transact f : Routine σ ℓ κ α).Ensures ρ Q t s ↔
      ∀ now, ρ.own t ⟨true, now, s, (f now s).2⟩ ∧
        Q (f now s).1 (⟨true, now, s, (f now s).2⟩ :: t) (f now s).2 := Iff.rfl

theorem Ensures.discard {r : Routine σ ℓ κ α} {Q : List (Change σ) → σ → Prop}
    (h : r.Ensures ρ (fun _ => Q) t s) : (discard r).Ensures ρ (fun _ => Q) t s :=
  h.bind (fun _ _ _ hq => hq)

theorem ensures_pause {ms : Nat} {Q : Unit → List (Change σ) → σ → Prop}
    (h : ∀ t' s', Amid ρ.others t s t' s' → Q () t' s') :
    (pause ms : Routine σ ℓ κ Unit).Ensures ρ Q t s :=
  ⟨fun _ => h t s .rest, fun _ => h⟩

theorem ensures_thenOk {r : Routine σ ℓ κ (Except Error α)}
    {f : α → Routine σ ℓ κ (Except Error β)} {Q : Except Error β → List (Change σ) → σ → Prop} :
    (r.thenOk f).Ensures ρ Q t s ↔
      r.Ensures ρ (fun x t s => match x with
        | .error e => Q (.error e) t s
        | .ok a => (f a).Ensures ρ Q t s) t s := by
  refine ensures_bind.trans ⟨fun h => h.mono ?_, fun h => h.mono ?_⟩ <;>
    · intro x t s hq
      cases x <;> exact hq

theorem plays_thenOk {others : σ → σ → Prop} {r : Routine σ ℓ κ (Except Error α)}
    {f : α → Routine σ ℓ κ (Except Error β)} {t' : List (Change σ)} {s' : σ} {b : β} :
    (r.thenOk f).Plays others t s (.ok b) t' s' ↔
      ∃ a t₁ s₁, r.Plays others t s (.ok a) t₁ s₁ ∧ (f a).Plays others t₁ s₁ (.ok b) t' s' := by
  refine plays_bind.trans ⟨fun hd => ?_, fun hd => ?_⟩
  · obtain ⟨x, t₁, s₁, hr, hplay⟩ := hd
    cases x with
    | error e => cases (plays_pure.1 hplay).1
    | ok a => exact ⟨a, t₁, s₁, hr, hplay⟩
  · obtain ⟨a, t₁, s₁, hr, hplay⟩ := hd
    exact ⟨.ok a, t₁, s₁, hr, hplay⟩

theorem ensures_onSome {o : Option α} {f : α → Routine σ ℓ κ (Except Error Unit)}
    {Q : Except Error Unit → List (Change σ) → σ → Prop} (hnone : o = none → Q (.ok ()) t s)
    (hsome : ∀ a, o = some a → (f a).Ensures ρ Q t s) : (onSome o f).Ensures ρ Q t s := by
  cases o with
  | none => exact hnone rfl
  | some a => exact hsome a rfl

theorem ensures_when {c : Prop} [Decidable c] {r : Routine σ ℓ κ Unit} {k : Unit → Routine σ ℓ κ α}
    {P : List (Change σ) → σ → Prop} {Q : α → List (Change σ) → σ → Prop}
    (hr : c → r.Ensures ρ (fun _ => P) t s) (hn : ¬c → P t s)
    (hk : ∀ t s, P t s → (k ()).Ensures ρ Q t s) :
    (if c then r >>= k else k ()).Ensures ρ Q t s := by
  split
  · rename_i hc
    exact (hr hc).bind fun _ t s hp => hk t s hp
  · rename_i hc
    exact hk t s (hn hc)

theorem Ensures.plays {r : Routine σ ℓ κ α} {Q : α → List (Change σ) → σ → Prop}
    {t' : List (Change σ)} {s' : σ} {a : α} (h : r.Ensures ρ Q t s)
    (hp : r.Plays ρ.others t s a t' s') : Q a t' s' := by
  induction hp with
  | done a t s => exact h
  | act now _ ih => exact ih (h now).2
  | goOn _ ih => exact ih (h.1 rfl)
  | wait hms ho _ ih => exact ih (h.2 hms _ _ ho)
  | acquire _ _ _ => exact h.elim
  | release _ _ => exact h.elim
  | start _ ih => exact ih h

theorem Ensures.and {own : List (Change σ) → Change σ → Prop} {r : Routine σ ℓ κ α}
    {Q Q' : α → List (Change σ) → σ → Prop} (h : r.Ensures ρ Q t s)
    (h' : r.Ensures ⟨ρ.others, own⟩ Q' t s) :
    r.Ensures ρ (fun a t s => Q a t s ∧ Q' a t s) t s := by
  induction r generalizing t s with
  | done a => exact ⟨h, h'⟩
  | act step next ih => exact fun now => ⟨(h now).1, ih now s (h now).2 (h' now).2⟩
  | wait ms next ih =>
    exact ⟨fun hms => ih (h.1 hms) (h'.1 hms), fun hms t' s' ho =>
      ih (h.2 hms t' s' ho) (h'.2 hms t' s' ho)⟩
  | acquire l next => exact h
  | release l next => exact h
  | start j next ih => exact ih h h'

/-- At the end of a routine that ensures something lies a play of it. -/
theorem Ensures.and_plays {r : Routine σ ℓ κ α} {Q : α → List (Change σ) → σ → Prop}
    (h : r.Ensures ρ Q t s) :
    r.Ensures ρ (fun a t' s' => Q a t' s' ∧ r.Plays ρ.others t s a t' s') t s := by
  induction r generalizing t s with
  | done a => exact ⟨h, .done a t s⟩
  | act step next ih =>
    exact fun now => ⟨(h now).1, (ih now s (h now).2).mono fun _ _ _ hp => ⟨hp.1, .act now hp.2⟩⟩
  | wait ms next ih =>
    refine ⟨fun hms => (ih (h.1 hms)).mono fun _ _ _ hp => ⟨hp.1, ?_⟩, fun hms t' s' ho =>
      (ih (h.2 hms t' s' ho)).mono fun _ _ _ hp => ⟨hp.1, .wait hms ho hp.2⟩⟩
    subst hms
    exact .goOn hp.2
  | acquire l next => exact h
  | release l next => exact h
  | start j next ih => exact (ih h).mono fun _ _ _ hp => ⟨hp.1, .start hp.2⟩

/-- A routine that works on a part of the state ensures there what it ensures of the part, and
keeps all that neither its own changes nor those of others touch. -/
theorem Ensures.embed {get : τ → σ} {put : σ → τ → τ} {ℓ' κ' : Type} {lock : ℓ → ℓ'}
    {job : κ → κ'} {ρ' : Rules τ} {F : List (Change τ) → τ → Prop} (hget : ∀ s u, get (put s u) = s)
    (others : ∀ u u', ρ'.others u u' → ρ.others (get u) (get u'))
    (frame : ∀ t u u' now, F t u → ρ'.others u u' → F (⟨false, now, u, u'⟩ :: t) u')
    (own : ∀ t u s' now, F t u → ρ.own (t.map (Change.map get)) ⟨true, now, get u, s'⟩ →
      ρ'.own t ⟨true, now, u, put s' u⟩ ∧ F (⟨true, now, u, put s' u⟩ :: t) (put s' u))
    {r : Routine σ ℓ κ α} {Q : α → List (Change σ) → σ → Prop} {t : List (Change τ)} {u : τ}
    (hf : F t u) (h : r.Ensures ρ Q (t.map (Change.map get)) (get u)) :
    (r.embed get put lock job).Ensures ρ'
      (fun a t u => Q a (t.map (Change.map get)) (get u) ∧ F t u) t u := by
  induction r generalizing t u with
  | done a => exact ⟨h, hf⟩
  | act step next ih =>
    intro now
    obtain ⟨hown, hf'⟩ := own t u (step now (get u)) now hf (h now).1
    refine ⟨hown, ih now (get u) hf' ?_⟩
    simpa only [List.map_cons, Change.map, hget] using (h now).2
  | wait ms next ih =>
    refine ⟨fun hms => ih hf (h.1 hms), fun hms t' u' ho => ?_⟩
    have hboth : Amid ρ.others (t.map (Change.map get)) (get u) (t'.map (Change.map get)) (get u') ∧
        F t' u' := by
      refine ho.preserves (P := fun t' u' =>
        Amid ρ.others (t.map (Change.map get)) (get u) (t'.map (Change.map get)) (get u') ∧
          F t' u') ?_ ⟨.rest, hf⟩
      intro t₁ u₁ u₂ time hp hstep
      exact ⟨.more time hp.1 (others u₁ u₂ hstep), frame t₁ u₁ u₂ time hp.2 hstep⟩
    exact ih hboth.2 (h.2 hms _ _ hboth.1)
  | acquire l next => exact h
  | release l next => exact h
  | start j next ih => exact ih hf h

theorem embed_self (r : Routine σ ℓ κ α) : r.embed id (fun s _ => s) id id = r := by
  induction r with
  | done a => rfl
  | act step next ih => simp only [embed, id, ih]
  | wait ms next ih => simp only [embed, ih]
  | acquire l next ih => simp only [embed, id, ih]
  | release l next ih => simp only [embed, id, ih]
  | start j next ih => simp only [embed, id, ih]

theorem embed_bind {get : τ → σ} {put : σ → τ → τ} {ℓ' κ' : Type} {lock : ℓ → ℓ'} {job : κ → κ'}
    (r : Routine σ ℓ κ α) (f : α → Routine σ ℓ κ β) :
    (r >>= f).embed get put lock job =
      r.embed get put lock job >>= fun a => (f a).embed get put lock job := by
  change (r.andThen f).embed get put lock job =
    (r.embed get put lock job).andThen fun a => (f a).embed get put lock job
  induction r with
  | done a => rfl
  | act step next ih => simp only [andThen, embed, ih]
  | wait ms next ih => simp only [andThen, embed, ih]
  | acquire l next ih => simp only [andThen, embed, ih]
  | release l next ih => simp only [andThen, embed, ih]
  | start j next ih => simp only [andThen, embed, ih]

/-- What every allowed change keeps is kept to the end. -/
theorem Ensures.frame {ρ' : Rules σ} {F : List (Change σ) → σ → Prop}
    (others : ∀ s s', ρ'.others s s' → ρ.others s s')
    (frame : ∀ t s s' now, F t s → ρ'.others s s' → F (⟨false, now, s, s'⟩ :: t) s')
    (own : ∀ t s s' now, F t s → ρ.own t ⟨true, now, s, s'⟩ →
      ρ'.own t ⟨true, now, s, s'⟩ ∧ F (⟨true, now, s, s'⟩ :: t) s')
    {r : Routine σ ℓ κ α} {Q : α → List (Change σ) → σ → Prop} (hf : F t s)
    (h : r.Ensures ρ Q t s) : r.Ensures ρ' (fun a t s => Q a t s ∧ F t s) t s := by
  have hmap (t : List (Change σ)) : t.map (Change.map id) = t := List.map_id' t
  have := @Ensures.embed σ σ ℓ κ α ρ id (fun s _ => s) ℓ κ id id ρ' F (fun _ _ => rfl) others frame
    (fun t u s' now hf ho => own t u s' now hf (by rwa [hmap] at ho)) r Q t s hf (by rwa [hmap])
  simpa only [hmap, embed_self, id] using this

theorem Ensures.amid {others : σ → σ → Prop} {r : Routine σ ℓ κ α}
    {Q : α → List (Change σ) → σ → Prop} (h : r.Ensures ρ Q t s)
    (ho : ∀ s s', others s s' → ρ.others s s') : r.Ensures ⟨others, ρ.own⟩ Q t s := by
  refine Ensures.mono (Ensures.frame (F := fun _ _ => True) ?_ ?_ ?_ trivial h) fun _ _ _ hd => hd.1
  · exact ho
  · exact fun _ _ _ _ _ _ => trivial
  · exact fun _ _ _ _ _ hown => ⟨hown, trivial⟩

end Routine
end Failover
