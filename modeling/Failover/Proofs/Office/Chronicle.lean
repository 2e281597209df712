import Failover.Proofs.Office.Basic

/-!
Chronicles: runs of an open session together with all that has happened since it was opened. What
whoever works for the session has to keep to may depend on the whole of it.
-/
namespace Failover

/-- The rules of a session by its chronicle: what may happen to the desk without the lock, what its
holder may do, how things are when nobody holds it, and what the end of a duty adds to that. -/
structure Regime where
  lockFree : Desk → Desk → Prop
  own : Duty → List (Change Desk) → Change Desk → Prop
  inOrder : List (Change Desk) → Desk → Prop
  upon : Duty → Desk → Prop

def Regime.rules (ω : Regime) (duty : Duty) : Rules Desk := ⟨ω.lockFree, ω.own duty⟩

namespace Routine
variable {α β : Type} {ω : Regime} {duty : Duty} {holds : Bool} {t : List (Change Desk)} {d : Desk}
  {Q : α → List (Change Desk) → Desk → Prop}

/-- From here on the work abides by the rules, and ends without the lock as wanted. Where it waits
without the lock, all that is known is that the chronicle goes on. -/
def Abides (ω : Regime) (duty : Duty) (Q : α → List (Change Desk) → Desk → Prop) :
    Act α → Bool → List (Change Desk) → Desk → Prop
  | .done a, holds, t, d => holds = false ∧ Q a t d
  | .act step next, holds, t, d => ∀ now,
    (if holds then ω.own duty t ⟨true, now, d, step now d⟩ else ω.lockFree d (step now d)) ∧
      (next now d).Abides ω duty Q holds (⟨holds, now, d, step now d⟩ :: t) (step now d)
  | .wait ms next, holds, t, d =>
    (ms = 0 → next.Abides ω duty Q holds t d) ∧
      (0 < ms → ∀ t' d', (if holds then Amid ω.lockFree t d t' d' else t <:+ t') →
        next.Abides ω duty Q holds t' d')
  | .acquire _ next, holds, t, _ =>
    holds = false ∧ ∀ t' d', t <:+ t' → ω.inOrder t' d' → next.Abides ω duty Q true t' d'
  | .release _ next, holds, t, d =>
    holds = true ∧ ω.inOrder t d ∧ ω.upon duty d ∧ next.Abides ω duty Q false t d
  | .start _ next, holds, t, d => next.Abides ω duty Q holds t d

theorem Abides.bind {r : Act α} {f : α → Act β} {R : β → List (Change Desk) → Desk → Prop}
    (h : r.Abides ω duty Q holds t d) (hf : ∀ a t d, Q a t d → (f a).Abides ω duty R false t d) :
    (r >>= f).Abides ω duty R holds t d := by
  change (r.andThen f).Abides ω duty R holds t d
  induction r generalizing holds t d with
  | done a =>
    obtain ⟨rfl, hq⟩ := h
    exact hf a t d hq
  | act step next ih => exact fun now => ⟨(h now).1, ih now d (h now).2⟩
  | wait ms next ih => exact ⟨fun hms => ih (h.1 hms), fun hms t' d' ho => ih (h.2 hms t' d' ho)⟩
  | acquire l next ih => exact ⟨h.1, fun t' d' ht hd => ih (h.2 t' d' ht hd)⟩
  | release l next ih => exact ⟨h.1, h.2.1, h.2.2.1, ih h.2.2.2⟩
  | start j next ih => exact ih h

theorem Abides.mono {r : Act α} {R : α → List (Change Desk) → Desk → Prop}
    (h : r.Abides ω duty Q holds t d) (hq : ∀ a t d, Q a t d → R a t d) :
    r.Abides ω duty R holds t d := by
  have hbind : (r >>= pure).Abides ω duty R holds t d :=
    h.bind fun a t d hd => ⟨rfl, hq a t d hd⟩
  rwa [bind_pure] at hbind

theorem Abides.discard {r : Act α} (h : r.Abides ω duty (fun _ _ _ => True) false t d) :
    (discard r).Abides ω duty (fun _ _ _ => True) false t d :=
  Abides.bind (f := fun _ => .done ()) h fun _ _ _ _ => ⟨rfl, trivial⟩

theorem abides_change {f : Nat → Desk → Desk} {Q : Unit → List (Change Desk) → Desk → Prop}
    (h : ∀ now, ω.lockFree d (f now d) ∧ Q () (⟨false, now, d, f now d⟩ :: t) (f now d)) :
    (change f : Act Unit).Abides ω duty Q false t d :=
  fun now => ⟨(h now).1, rfl, (h now).2⟩

theorem Steps.abides {r : Act α} (h : r.Steps ω.lockFree) :
    r.Abides ω duty (fun _ t' _ => t <:+ t') false t d := by
  suffices hgo : ∀ t', t <:+ t' → r.Abides ω duty (fun _ t' _ => t <:+ t') false t' d from
    hgo t (List.suffix_refl t)
  induction r generalizing d with
  | done a => exact fun t' ht => ⟨rfl, ht⟩
  | act step next ih =>
    exact fun t' ht now => ⟨(h now d).1, ih now d (h now d).2 _ (ht.trans (List.suffix_cons _ t'))⟩
  | wait ms next ih =>
    exact fun t' ht => ⟨fun _ => ih h t' ht, fun _ t'' d' ho => ih h t'' (ht.trans ho)⟩
  | acquire l next => exact h.elim
  | release l next => exact h.elim
  | start j next ih => exact fun t' ht => ih h t' ht

theorem abides_locked {body : Act α}
    (h : ∀ t' d', t <:+ t' → ω.inOrder t' d' → body.Ensures (ω.rules duty)
      (fun a t d => (ω.inOrder t d ∧ ω.upon duty d) ∧ Q a t d) t' d') :
    (locked () body).Abides ω duty Q false t d := by
  refine ⟨rfl, fun t' d' ht hd => ?_⟩
  have hbody := h t' d' ht hd
  clear h ht hd
  induction body generalizing t' d' with
  | done a => exact ⟨rfl, hbody.1.1, hbody.1.2, rfl, hbody.2⟩
  | act step next ih => exact fun now => ⟨(hbody now).1, ih now d' _ _ (hbody now).2⟩
  | wait ms next ih =>
    exact ⟨fun hms => ih _ _ (hbody.1 hms), fun hms t d ho => ih _ _ (hbody.2 hms t d ho)⟩
  | acquire l next => exact hbody.elim
  | release l next => exact hbody.elim
  | start j next ih => exact ih _ _ hbody

end Routine

namespace Office
variable {ω : Regime} {ask : Request → Prop} {visitor : Clerk → Prop}
  {outside : Desk → Desk → Prop} {t₀ t t' : List (Change Desk)} {o₀ o o' : Office}

/-- What a step adds to the chronicle is what it adds to the tenure of the lock. -/
def Records (o o' : Office) (t t' : List (Change Desk)) : Prop :=
  (t' = t ∧ (o'.tenure = o.tenure ∨ o'.tenure = [])) ∨ ∃ e, o'.tenure = e :: o.tenure ∧ t' = e :: t

theorem Records.same (h : Records o o' t t') (ht : o'.tenure = o.tenure) : t' = t := by
  rcases h with h | ⟨e, he, -⟩
  · exact h.1
  · rw [ht] at he
    exact (List.cons_ne_self e _ he.symm).elim

theorem Records.reset (h : Records o o' t t') (ht : o'.tenure = []) : t' = t := by
  rcases h with h | ⟨e, he, -⟩
  · exact h.1
  · rw [ht] at he
    cases he

theorem Records.cons {e : Change Desk} (h : Records o o' t t') (ht : o'.tenure = e :: o.tenure) :
    t' = e :: t := by
  rcases h with ⟨-, hs | hn⟩ | ⟨e', he, rfl⟩
  · rw [ht] at hs
    exact (List.cons_ne_self e _ hs).elim
  · rw [ht] at hn
    cases hn
  · rw [ht] at he
    cases he
    rfl

/-- A run of the session and its chronicle. Visitors may come in with work of their own. -/
inductive Chronicle (ask : Request → Prop) (visitor : Clerk → Prop) (outside : Desk → Desk → Prop)
    (t₀ : List (Change Desk)) (o₀ : Office) : List (Change Desk) → Office → Prop
  | opened : Chronicle ask visitor outside t₀ o₀ t₀ o₀
  | step {t t' : List (Change Desk)} {o o' : Office} :
      Chronicle ask visitor outside t₀ o₀ t o → Step ask outside o o' → Records o o' t t' →
      Chronicle ask visitor outside t₀ o₀ t' o'
  | visit {t : List (Change Desk)} {o : Office} {c : Clerk} :
      Chronicle ask visitor outside t₀ o₀ t o → o.busy = none → visitor c →
      Chronicle ask visitor outside t₀ o₀ t { o with idle := c :: o.idle }

theorem exists_records (h : Step ask outside o o') (t : List (Change Desk)) :
    ∃ t', Records o o' t t' := by
  cases h with
  | befall now d => exact ⟨_, .inr ⟨_, rfl, rfl⟩⟩
  | act now => exact ⟨_, .inr ⟨_, rfl, rfl⟩⟩
  | @sleep c holds => cases holds <;> exact ⟨t, .inl ⟨rfl, .inl rfl⟩⟩
  | lock => exact ⟨t, .inl ⟨rfl, .inr rfl⟩⟩
  | _ => exact ⟨t, .inl ⟨rfl, .inl rfl⟩⟩

/-- Every run has its chronicle. -/
theorem exists_chronicle (h : Run ask outside o₀ o) (t₀ : List (Change Desk)) :
    ∃ t, Chronicle ask visitor outside t₀ o₀ t o := by
  induction h with
  | refl => exact ⟨t₀, .opened⟩
  | tail _ hs ih =>
    obtain ⟨t, h⟩ := ih
    obtain ⟨t', hr⟩ := exists_records hs t
    exact ⟨t', h.step hs hr⟩

def record (now : Nat) (o : Office) (t : List (Change Desk)) : List (Change Desk) :=
  match o.busy with
  | some (⟨_, .act step _⟩, holds) => ⟨holds, now, o.desk, step now o.desk⟩ :: t
  | _ => t

def log (now : Nat) : Nat → Office → List (Change Desk) → List (Change Desk)
  | 0, _, t => t
  | k + 1, o, t =>
    match o.proceed now with
    | none => t
    | some o' => log now k o' (o.record now t)

theorem records_proceed {now : Nat} (h : o.proceed now = some o') :
    Records o o' t (o.record now t) := by
  unfold proceed at h
  unfold record
  cases hbusy : o.busy with
  | none =>
    rw [hbusy] at h
    cases h
  | some b =>
    obtain ⟨⟨duty, rest⟩, holds⟩ := b
    rw [hbusy] at h
    cases rest with
    | act step next =>
      cases h
      exact .inr ⟨_, rfl, rfl⟩
    | wait ms next =>
      cases ms <;> cases h <;> exact .inl ⟨rfl, by cases holds <;> exact .inl rfl⟩
    | acquire l next =>
      cases holds with
      | true => cases h
      | false =>
        dsimp only at h
        split at h <;> cases h
        · exact .inl ⟨rfl, .inl rfl⟩
        · exact .inl ⟨rfl, .inr rfl⟩
    | release l next =>
      cases holds with
      | false => cases h
      | true =>
        cases h
        exact .inl ⟨rfl, .inl rfl⟩
    | start j next =>
      cases h
      exact .inl ⟨rfl, .inl rfl⟩
    | done e => cases holds <;> cases e <;> cases h <;> exact .inl ⟨rfl, .inl rfl⟩

theorem Chronicle.work (h : Chronicle ask visitor outside t₀ o₀ t o) (now k : Nat) :
    Chronicle ask visitor outside t₀ o₀ (o.log now k t) (o.work now k) := by
  induction k generalizing o t with
  | zero => exact h
  | succ k ih =>
    simp only [log, Office.work]
    cases ho : o.proceed now with
    | none => exact h
    | some o' => exact ih (h.step (step_of_proceed ho) (records_proceed ho))

theorem Chronicle.serve (h : Chronicle ask visitor outside t₀ o₀ t o) {r : Request}
    (hbusy : o.busy = none) (hr : ask r) :
    Chronicle ask visitor outside t₀ o₀ t (o.serving r) := by
  have hcalled := h.step (.call r hbusy hr) (.inl ⟨rfl, .inl rfl⟩)
  exact hcalled.step (@Step.resume ask outside { o with idle := .fresh (.request r) :: o.idle } _ []
    o.idle hbusy rfl) (.inl ⟨rfl, .inl rfl⟩)

/-- A clerk who has not got the lock goes on by the rules, whenever that will be. -/
def Waits (ω : Regime) (t : List (Change Desk)) (c : Clerk) : Prop :=
  ∀ t' d', t <:+ t' → c.rest.Abides ω c.duty (fun _ _ _ => True) false t' d'

theorem Waits.mono {c : Clerk} (h : Waits ω t c) (ht : t <:+ t') : Waits ω t' c :=
  fun t'' d hs => h t'' d (ht.trans hs)

/-- Nobody holds the lock. -/
def Unlocked (o : Office) : Prop := o.keeper = none ∧ ∀ c, o.busy ≠ some (c, true)

theorem unlocked_of_rest (hbusy : o.busy.isNone = true) (hkeeper : o.keeper.isNone = true) :
    o.Unlocked := by
  refine ⟨Option.isNone_iff_eq_none.1 hkeeper, fun c hc => ?_⟩
  rw [Option.isNone_iff_eq_none.1 hbusy] at hc
  cases hc

/-- The lock stays free until somebody takes it. -/
theorem Unlocked.step (h : o.Unlocked) (hs : Step ask outside o o') :
    o'.Unlocked ∨ o'.tenure = [] := by
  cases hs with
  | @wake c _ hkeeper =>
    rw [h.1] at hkeeper
    cases hkeeper
  | @act c holds _ _ _ hbusy =>
    cases holds with
    | true => exact (h.2 c hbusy).elim
    | false => exact .inl ⟨h.1, by simp⟩
  | @goOn c holds _ hbusy =>
    cases holds with
    | true => exact (h.2 c hbusy).elim
    | false => exact .inl ⟨h.1, by simp⟩
  | @sleep c holds _ _ hbusy =>
    cases holds with
    | true => exact (h.2 c hbusy).elim
    | false => exact .inl ⟨h.1, by simp [stepBack]⟩
  | queue hbusy => exact .inl ⟨h.1, by simp [stepBack]⟩
  | lock => exact .inr rfl
  | @unlock c _ hbusy => exact (h.2 c hbusy).elim
  | @start c holds _ _ hbusy =>
    cases holds with
    | true => exact (h.2 c hbusy).elim
    | false => exact .inl ⟨h.1, by simp⟩
  | call r hbusy => exact .inl h
  | befall now d hbusy => exact .inl h
  | resume hbusy => exact .inl ⟨h.1, by simp⟩
  | finish hbusy => exact .inl ⟨h.1, by simp⟩
  | carryOn hbusy => exact .inl ⟨h.1, by simp⟩

/-- Everyone abides by the rules from here on, and things are in order while the lock is free. -/
structure Kept (ω : Regime) (t : List (Change Desk)) (o : Office) : Prop where
  idle : ∀ c ∈ o.idle, Waits ω t c
  busy : ∀ c holds, o.busy = some (c, holds) →
    c.rest.Abides ω c.duty (fun _ _ _ => True) holds t o.desk
  keeper : ∀ c, o.keeper = some c → ∀ t' d', Amid ω.lockFree t o.desk t' d' →
    c.rest.Abides ω c.duty (fun _ _ _ => True) true t' d'
  alone : ∀ c, o.busy = some (c, true) → o.keeper = none
  inOrder : o.Unlocked → ω.inOrder t o.desk

theorem Kept.goOn {c c' : Clerk} {holds : Bool} {idle : List Clerk} (hp : o.Kept ω t)
    (hbusy : o.busy = some (c, holds)) (hidle : ∀ c ∈ idle, Waits ω t c)
    (hc : c'.rest.Abides ω c'.duty (fun _ _ _ => True) holds t o.desk) :
    Kept ω t { o with busy := some (c', holds), idle := idle } := by
  refine ⟨hidle, ?_, hp.keeper, ?_, fun hfree => hp.inOrder ⟨hfree.1, ?_⟩⟩
  · intro x y hb
    cases hb
    exact hc
  · intro x hb
    cases hb
    exact hp.alone c hbusy
  · intro x hx
    rw [hbusy] at hx
    cases hx
    exact hfree.2 c' rfl

theorem Kept.leave {c : Clerk} {idle : List Clerk} (hp : o.Kept ω t)
    (hbusy : o.busy = some (c, false)) (hidle : ∀ c ∈ idle, Waits ω t c) :
    Kept ω t { o with busy := none, idle := idle } := by
  refine ⟨hidle, ?_, hp.keeper, ?_, fun hfree => hp.inOrder ⟨hfree.1, by simp [hbusy]⟩⟩
  · intro x y hb
    cases hb
  · intro x hb
    cases hb

theorem Kept.act {c : Clerk} {holds : Bool} {step : Nat → Desk → Desk}
    {next : Nat → Desk → Act (Option Errand)}
    (horder : ∀ t d d' now, ω.inOrder t d → ω.lockFree d d' → ω.inOrder (⟨false, now, d, d'⟩ :: t) d')
    (hp : o.Kept ω t) (now : Nat) (hbusy : o.busy = some (c, holds))
    (hrest : c.rest = .act step next) :
    Kept ω (⟨holds, now, o.desk, step now o.desk⟩ :: t)
      { o.change holds now (step now o.desk) with
        busy := some (⟨c.duty, next now o.desk⟩, holds) } := by
  have hc := hp.busy c holds hbusy
  rw [hrest] at hc
  have hidle (x : Clerk) (hx : x ∈ o.idle) :=
    (hp.idle x hx).mono (List.suffix_cons ⟨holds, now, o.desk, step now o.desk⟩ t)
  cases holds with
  | true =>
    have hk := hp.alone c hbusy
    refine ⟨hidle, ?_, ?_, fun _ _ => hk, fun hfree => (hfree.2 _ rfl).elim⟩
    · intro x holds hb
      cases hb
      exact (hc now).2
    · intro x hx
      rw [show o.keeper = some x from hx] at hk
      cases hk
  | false =>
    refine ⟨hidle, ?_, ?_, ?_, ?_⟩
    · intro x holds hb
      cases hb
      exact (hc now).2
    · exact fun x hx t' d' ho => hp.keeper x hx t' d' (.head now (hc now).1 ho)
    · intro x hb
      cases hb
    · exact fun hfree =>
        horder _ _ _ _ (hp.inOrder ⟨hfree.1, by simp [hbusy]⟩) (hc now).1

/-- Every step keeps to the rules, provided that whatever befalls the desk and whoever comes to it
does. -/
theorem Kept.step (hlockFree : ∀ d d', outside d d' → ω.lockFree d d')
    (horder : ∀ t d d' now, ω.inOrder t d → ω.lockFree d d' → ω.inOrder (⟨false, now, d, d'⟩ :: t) d')
    (hrequest : ∀ r, ask r → ∀ t, Waits ω t (.fresh (.request r)))
    (herrand : ∀ e t, Waits ω t (.fresh (.errand e)))
    (hp : o.Kept ω t) (hs : Step ask outside o o') (hr : Records o o' t t') : o'.Kept ω t' := by
  have hnew (e : Errand) : ∀ c ∈ Clerk.fresh (.errand e) :: o.idle, Waits ω t c :=
    List.forall_mem_cons.2 ⟨herrand e t, hp.idle⟩
  cases hs with
  | call r hbusy hask =>
    cases hr.same rfl
    exact ⟨List.forall_mem_cons.2 ⟨hrequest r hask t, hp.idle⟩, hp.busy, hp.keeper, hp.alone,
      hp.inOrder⟩
  | befall now d hbusy hout =>
    cases hr.cons rfl
    refine ⟨fun c hc => (hp.idle c hc).mono (List.suffix_cons _ t), ?_, ?_, hp.alone, ?_⟩
    · intro c holds hc
      rw [change, hbusy] at hc
      cases hc
    · exact fun c hc t' d' ho => hp.keeper c hc t' d' (.head now (hlockFree _ _ hout) ho)
    · exact fun hfree => horder _ _ _ _ (hp.inOrder hfree) (hlockFree _ _ hout)
  | @resume c before after hbusy hidle =>
    cases hr.same rfl
    have hall := hp.idle
    rw [hidle] at hall
    refine ⟨fun c' hc => hall c' ?_, ?_, hp.keeper, ?_, ?_⟩
    · simp only [List.mem_append, List.mem_cons] at hc ⊢
      exact hc.imp_right .inr
    · intro x holds hb
      cases hb
      exact hall c (by simp) t o.desk (List.suffix_refl t)
    · intro x hb
      cases hb
    · exact fun hfree => hp.inOrder ⟨hfree.1, by simp [hbusy]⟩
  | @wake c hbusy hkeeper =>
    cases hr.same rfl
    refine ⟨hp.idle, ?_, ?_, fun _ _ => rfl, fun hfree => (hfree.2 c rfl).elim⟩
    · intro x holds hb
      cases hb
      exact hp.keeper c hkeeper _ _ .rest
    · intro x hk
      cases hk
  | @act c holds step next now hbusy hrest =>
    cases hr.cons rfl
    exact hp.act horder now hbusy hrest
  | @goOn c holds next hbusy hrest =>
    cases hr.same rfl
    have hc := hp.busy c holds hbusy
    rw [hrest] at hc
    exact hp.goOn hbusy hp.idle (hc.1 rfl)
  | @sleep c holds ms next hbusy hrest hms =>
    have hc := hp.busy c holds hbusy
    rw [hrest] at hc
    cases holds with
    | true =>
      cases hr.same rfl
      refine ⟨hp.idle, ?_, ?_, ?_, ?_⟩
      · intro x holds hb
        cases hb
      · intro x hx
        cases hx
        exact hc.2 hms
      · intro x hb
        cases hb
      · intro hfree
        cases hfree.1
    | false =>
      cases hr.same rfl
      exact hp.leave hbusy (List.forall_mem_cons.2 ⟨hc.2 hms, hp.idle⟩)
  | @queue c next hbusy hrest =>
    cases hr.same rfl
    have hc := hp.busy c false hbusy
    refine hp.leave hbusy (List.forall_mem_cons.2 ⟨fun t' d' ht => ?_, hp.idle⟩)
    rw [hrest] at hc ⊢
    exact ⟨rfl, fun t'' d'' ht' => hc.2 t'' d'' (ht.trans ht')⟩
  | @lock c next hbusy hrest hkeeper =>
    cases hr.reset rfl
    have hc := hp.busy c false hbusy
    rw [hrest] at hc
    refine ⟨hp.idle, ?_, ?_, fun _ _ => hkeeper, fun hfree => (hfree.2 _ rfl).elim⟩
    · intro x holds hb
      cases hb
      exact hc.2 t o.desk (List.suffix_refl t) (hp.inOrder ⟨hkeeper, by simp [hbusy]⟩)
    · intro x hx
      rw [show o.keeper = some x from hx] at hkeeper
      cases hkeeper
  | @unlock c next hbusy hrest =>
    cases hr.same rfl
    have hc := hp.busy c true hbusy
    rw [hrest] at hc
    refine ⟨hp.idle, ?_, hp.keeper, ?_, fun _ => hc.2.1⟩
    · intro x holds hb
      cases hb
      exact hc.2.2.2
    · intro x hb
      cases hb
  | @start c holds j next hbusy hrest =>
    cases hr.same rfl
    have hc := hp.busy c holds hbusy
    rw [hrest] at hc
    exact hp.goOn hbusy (hnew j) hc
  | @finish c hbusy hrest =>
    cases hr.same rfl
    exact hp.leave hbusy hp.idle
  | @carryOn c j hbusy hrest =>
    cases hr.same rfl
    exact hp.leave hbusy (hnew j)

theorem Kept.visit {c : Clerk} (hp : o.Kept ω t) (hc : Waits ω t c) :
    Kept ω t { o with idle := c :: o.idle } :=
  ⟨List.forall_mem_cons.2 ⟨hc, hp.idle⟩, hp.busy, hp.keeper, hp.alone, hp.inOrder⟩

/-- Throughout a chronicle everyone abides by the rules. -/
theorem Chronicle.kept (hlockFree : ∀ d d', outside d d' → ω.lockFree d d')
    (horder : ∀ t d d' now, ω.inOrder t d → ω.lockFree d d' → ω.inOrder (⟨false, now, d, d'⟩ :: t) d')
    (hrequest : ∀ r, ask r → ∀ t, Waits ω t (.fresh (.request r)))
    (herrand : ∀ e t, Waits ω t (.fresh (.errand e))) (hvisitor : ∀ c, visitor c → ∀ t, Waits ω t c)
    (h₀ : o₀.Kept ω t₀) (h : Chronicle ask visitor outside t₀ o₀ t o) : o.Kept ω t := by
  induction h with
  | opened => exact h₀
  | step _ hs hr ih => exact ih.step hlockFree horder hrequest herrand hs hr
  | visit _ _ hc ih => exact ih.visit (hvisitor _ hc _)

theorem Chronicle.proper {house : House} (hl : house.Lasts)
    (hlockFree : ∀ d d', outside d d' → house.lockFree d d')
    (hrequest : ∀ r, ask r → Heeds house (.fresh (.request r)))
    (herrand : ∀ e, Heeds house (.fresh (.errand e))) (hvisitor : ∀ c, visitor c → Heeds house c)
    (h₀ : o₀.Proper house) (h : Chronicle ask visitor outside t₀ o₀ t o) : o.Proper house := by
  induction h with
  | opened => exact h₀
  | step _ hs _ ih => exact ih.step hl hlockFree hrequest herrand hs
  | visit _ _ hc ih => exact ih.visit (hvisitor _ hc)

/-- What a step adds to the chronicle is done without the lock, or by its holder as the rules
allow. -/
theorem Kept.deed (hlockFree : ∀ d d', outside d d' → ω.lockFree d d') (hp : o.Kept ω t)
    (hs : Step ask outside o o') (hr : Records o o' t t') :
    (t' = t ∧ o'.desk = o.desk) ∨ ∃ own now, t' = ⟨own, now, o.desk, o'.desk⟩ :: t ∧
      if own then ∃ c, o.busy = some (c, true) ∧ ω.own c.duty t ⟨true, now, o.desk, o'.desk⟩
      else ω.lockFree o.desk o'.desk := by
  cases hs with
  | befall now d _ hout => exact .inr ⟨false, now, hr.cons rfl, hlockFree _ _ hout⟩
  | @act c holds step next now hbusy hrest =>
    have hc := hp.busy c holds hbusy
    rw [hrest] at hc
    refine .inr ⟨holds, now, hr.cons rfl, ?_⟩
    cases holds with
    | true => exact ⟨c, hbusy, (hc now).1⟩
    | false => exact (hc now).1
  | @sleep c holds => cases holds <;> exact .inl ⟨hr.same rfl, rfl⟩
  | lock => exact .inl ⟨hr.reset rfl, rfl⟩
  | _ => exact .inl ⟨hr.same rfl, rfl⟩

theorem Kept.holder {c : Clerk} (hk : o.Kept ω t) (hbusy : o.busy = some (c, true))
    (hs : Step ask outside o o') (hr : Records o o' t t') :
    (∀ c', o'.busy = some (c', true) → c'.duty = c.duty) ∧
    ((t' = t ∧ o'.desk = o.desk) ∨ ∃ now, t' = ⟨true, now, o.desk, o'.desk⟩ :: t ∧
      ω.own c.duty t ⟨true, now, o.desk, o'.desk⟩) := by
  cases hs with
  | call r hb | befall now d hb | resume hb | wake hb | queue hb | lock hb | finish hb | carryOn hb =>
    cases hbusy.symm.trans hb
  | @act c' holds step next now hb hrest =>
    cases hbusy.symm.trans hb
    have hc := hk.busy c true hbusy
    rw [hrest] at hc
    refine ⟨fun c' hc' => ?_, .inr ⟨now, hr.cons rfl, (hc now).1⟩⟩
    cases hc'
    rfl
  | goOn hb | start hb =>
    cases hbusy.symm.trans hb
    refine ⟨fun c' hc' => ?_, .inl ⟨hr.same rfl, rfl⟩⟩
    cases hc'
    rfl
  | unlock hb | sleep hb =>
    cases hbusy.symm.trans hb
    refine ⟨fun c' hc' => ?_, .inl ⟨hr.same rfl, rfl⟩⟩
    cases hc'

end Office
end Failover
