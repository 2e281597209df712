import Failover.Proofs.Routine.Steps
import Failover.Session.Service
import Mathlib.Logic.Relation

/-!
An open session at work: callers and errands take turns at its desk in any order, each going on
until it has to wait, and one at a time holds its lock.
-/
namespace Failover

/-- What someone at the desk is there for. -/
inductive Duty where
  | request (r : Request)
  | errand (e : Errand)

def Duty.work : Duty → Act (Option Errand)
  | .request r => do
    discard r.serve
    return none
  | .errand e => e.body

/-- Someone at the desk, and the work that is left to do. -/
structure Clerk where
  duty : Duty
  rest : Act (Option Errand)

def Clerk.fresh (duty : Duty) : Clerk := ⟨duty, duty.work⟩

structure Office where
  desk : Desk
  /-- Who is at work just now, and whether holding the lock. -/
  busy : Option (Clerk × Bool) := none
  /-- Who holds the lock and waits for something else. -/
  keeper : Option Clerk := none
  /-- The others, who wait for the lock or for something else. -/
  idle : List Clerk := []
  /-- What has happened since the lock was taken last, the latest first. -/
  tenure : List (Change Desk) := []

namespace Office

def change (o : Office) (own : Bool) (now : Nat) (d : Desk) : Office :=
  { o with desk := d, tenure := ⟨own, now, o.desk, d⟩ :: o.tenure }

def stepBack (o : Office) (c : Clerk) (holds : Bool) : Office :=
  if holds then { o with busy := none, keeper := some c }
  else { o with busy := none, idle := c :: o.idle }

def serving (r : Request) (o : Office) : Office := { o with busy := some (.fresh (.request r), false) }

/-- One step of the session. Nobody is interrupted between two waits. -/
inductive Step (ask : Request → Prop) (outside : Desk → Desk → Prop) : Office → Office → Prop
  | call {o : Office} (r : Request) : o.busy = none → ask r →
      Step ask outside o { o with idle := .fresh (.request r) :: o.idle }
  | befall {o : Office} (now : Nat) (d : Desk) : o.busy = none → outside o.desk d →
      Step ask outside o (o.change false now d)
  | resume {o : Office} {c : Clerk} {before after : List Clerk} : o.busy = none →
      o.idle = before ++ c :: after →
      Step ask outside o { o with busy := some (c, false), idle := before ++ after }
  | wake {o : Office} {c : Clerk} : o.busy = none → o.keeper = some c →
      Step ask outside o { o with busy := some (c, true), keeper := none }
  | act {o : Office} {c : Clerk} {holds : Bool} {step : Nat → Desk → Desk}
      {next : Nat → Desk → Act (Option Errand)} (now : Nat) : o.busy = some (c, holds) →
      c.rest = .act step next →
      Step ask outside o { o.change holds now (step now o.desk) with
        busy := some (⟨c.duty, next now o.desk⟩, holds) }
  | goOn {o : Office} {c : Clerk} {holds : Bool} {next : Act (Option Errand)} :
      o.busy = some (c, holds) → c.rest = .wait 0 next →
      Step ask outside o { o with busy := some (⟨c.duty, next⟩, holds) }
  | sleep {o : Office} {c : Clerk} {holds : Bool} {ms : Nat} {next : Act (Option Errand)} :
      o.busy = some (c, holds) → c.rest = .wait ms next → 0 < ms →
      Step ask outside o (o.stepBack ⟨c.duty, next⟩ holds)
  | queue {o : Office} {c : Clerk} {next : Act (Option Errand)} : o.busy = some (c, false) →
      c.rest = .acquire () next → Step ask outside o (o.stepBack c false)
  | lock {o : Office} {c : Clerk} {next : Act (Option Errand)} : o.busy = some (c, false) →
      c.rest = .acquire () next → o.keeper = none →
      Step ask outside o { o with busy := some (⟨c.duty, next⟩, true), tenure := [] }
  | unlock {o : Office} {c : Clerk} {next : Act (Option Errand)} : o.busy = some (c, true) →
      c.rest = .release () next →
      Step ask outside o { o with busy := some (⟨c.duty, next⟩, false) }
  | start {o : Office} {c : Clerk} {holds : Bool} {j : Errand} {next : Act (Option Errand)} :
      o.busy = some (c, holds) → c.rest = .start j next →
      Step ask outside o { o with
        busy := some (⟨c.duty, next⟩, holds)
        idle := .fresh (.errand j) :: o.idle }
  | finish {o : Office} {c : Clerk} : o.busy = some (c, false) → c.rest = .done none →
      Step ask outside o { o with busy := none }
  | carryOn {o : Office} {c : Clerk} {j : Errand} : o.busy = some (c, false) →
      c.rest = .done (some j) →
      Step ask outside o { o with busy := none, idle := .fresh (.errand j) :: o.idle }

def Run (ask : Request → Prop) (outside : Desk → Desk → Prop) : Office → Office → Prop :=
  Relation.ReflTransGen (Step ask outside)

/-- What whoever is at work does next, at the given time. -/
def proceed (now : Nat) (o : Office) : Option Office :=
  match o.busy with
  | none => none
  | some (c, holds) =>
    match c.rest, holds with
    | .act step next, holds =>
      some { o.change holds now (step now o.desk) with
        busy := some (⟨c.duty, next now o.desk⟩, holds) }
    | .wait 0 next, holds => some { o with busy := some (⟨c.duty, next⟩, holds) }
    | .wait (_ + 1) next, holds => some (o.stepBack ⟨c.duty, next⟩ holds)
    | .acquire _ next, false =>
      if o.keeper.isSome then some (o.stepBack c false)
      else some { o with busy := some (⟨c.duty, next⟩, true), tenure := [] }
    | .release _ next, true => some { o with busy := some (⟨c.duty, next⟩, false) }
    | .start j next, holds =>
      some { o with
        busy := some (⟨c.duty, next⟩, holds)
        idle := .fresh (.errand j) :: o.idle }
    | .done none, false => some { o with busy := none }
    | .done (some j), false =>
      some { o with busy := none, idle := .fresh (.errand j) :: o.idle }
    | _, _ => none

def work (now : Nat) : Nat → Office → Office
  | 0, o => o
  | k + 1, o =>
    match o.proceed now with
    | none => o
    | some o' => o'.work now k

theorem step_of_proceed {ask : Request → Prop} {outside : Desk → Desk → Prop} {now : Nat}
    {o o' : Office} (h : o.proceed now = some o') : Step ask outside o o' := by
  unfold proceed at h
  split at h
  · cases h
  · rename_i c holds hbusy
    split at h
    · rename_i hrest
      cases h
      exact .act now hbusy hrest
    · rename_i hrest
      cases h
      exact .goOn hbusy hrest
    · rename_i hrest
      cases h
      exact .sleep hbusy hrest (Nat.succ_pos _)
    · rename_i hrest
      split at h
      · cases h
        exact .queue hbusy hrest
      · rename_i hkeeper
        cases h
        exact .lock hbusy hrest (by simpa using hkeeper)
    · rename_i hrest
      cases h
      exact .unlock hbusy hrest
    · rename_i hrest
      cases h
      exact .start hbusy hrest
    · rename_i hrest
      cases h
      exact .finish hbusy hrest
    · rename_i hrest
      cases h
      exact .carryOn hbusy hrest
    · cases h

/-- What a step does to the desk: nothing, what befalls it, or what whoever is at work does next. -/
theorem desk_of_step {ask : Request → Prop} {outside : Desk → Desk → Prop} {o o' : Office}
    (hs : Step ask outside o o') :
    (o'.desk = o.desk ∧
      ∀ c holds step next, o.busy = some (c, holds) → c.rest ≠ .act step next) ∨
    (o.busy = none ∧ outside o.desk o'.desk) ∨
    ∃ c holds step next now, o.busy = some (c, holds) ∧ c.rest = .act step next ∧
      o'.desk = step now o.desk := by
  cases hs with
  | befall now d hbusy hout => exact .inr (.inl ⟨hbusy, hout⟩)
  | act now hbusy hrest => exact .inr (.inr ⟨_, _, _, _, now, hbusy, hrest, rfl⟩)
  | call r hbusy | resume hbusy | wake hbusy =>
    refine .inl ⟨rfl, fun c holds step next hc => ?_⟩
    rw [hbusy] at hc
    cases hc
  | @sleep c holds ms next hbusy hrest =>
    refine .inl ⟨by cases holds <;> rfl, fun c' holds' step next' hc => ?_⟩
    cases hbusy.symm.trans hc
    rw [hrest]
    nofun
  | goOn hbusy hrest | queue hbusy hrest | lock hbusy hrest | unlock hbusy hrest | start hbusy hrest
    | finish hbusy hrest | carryOn hbusy hrest =>
    refine .inl ⟨rfl, fun c' holds' step next' hc => ?_⟩
    cases hbusy.symm.trans hc
    rw [hrest]
    nofun

theorem run_work {ask : Request → Prop} {outside : Desk → Desk → Prop} (now k : Nat) (o : Office) :
    Run ask outside o (o.work now k) := by
  induction k generalizing o with
  | zero => exact .refl
  | succ k ih =>
    unfold work
    split
    · exact .refl
    · rename_i o' h
      exact .head (step_of_proceed h) (ih o')

theorem run_serving {ask : Request → Prop} {outside : Desk → Desk → Prop} (r : Request) {o : Office}
    (hbusy : o.busy = none) (hr : ask r) : Run ask outside o (o.serving r) :=
  .head (.call r hbusy hr) (.single
    (@Step.resume ask outside { o with idle := .fresh (.request r) :: o.idle } _ [] o.idle hbusy rfl))

end Office

/-- The rules of a session: what may happen to the desk without the lock, what its holder may do,
how the desk is when nobody holds it, and how it is at every moment. -/
structure House where
  lockFree : Desk → Desk → Prop
  own : Duty → List (Change Desk) → Change Desk → Prop
  inOrder : Desk → Prop
  always : Desk → Prop := fun _ => True

def House.rules (house : House) (duty : Duty) : Rules Desk := ⟨house.lockFree, house.own duty⟩

/-- Whoever keeps to the rules leaves things as they should be. -/
structure House.Lasts (house : House) : Prop where
  lockFree : ∀ d d', house.always d → house.lockFree d d' → house.always d'
  own : ∀ duty t e, house.own duty t e → house.always e.before → house.always e.after
  order : ∀ d d', house.always d → house.inOrder d → house.lockFree d d' → house.inOrder d'

namespace Routine
variable {α β : Type} {house : House} {duty : Duty} {held : Option (List (Change Desk))} {d : Desk}

/-- From here on the work keeps to the rules, with the lock at the given point of its tenure or
without it, and ends without it as wanted. -/
def Minds (house : House) (duty : Duty) (Q : α → Desk → Prop) :
    Act α → Option (List (Change Desk)) → Desk → Prop
  | .done a, held, d => held = none ∧ Q a d
  | .act step next, none, d => ∀ now, house.lockFree d (step now d) ∧
      (next now d).Minds house duty Q none (step now d)
  | .act step next, some t, d => ∀ now, house.own duty t ⟨true, now, d, step now d⟩ ∧
      (next now d).Minds house duty Q (some (⟨true, now, d, step now d⟩ :: t)) (step now d)
  | .wait ms next, none, d => (ms = 0 → next.Minds house duty Q none d) ∧
      (0 < ms → ∀ d', house.always d' → next.Minds house duty Q none d')
  | .wait ms next, some t, d => (ms = 0 → next.Minds house duty Q (some t) d) ∧
      (0 < ms → ∀ t' d', Amid house.lockFree t d t' d' → next.Minds house duty Q (some t') d')
  | .acquire _ next, none, _ =>
    ∀ d', house.always d' → house.inOrder d' → next.Minds house duty Q (some []) d'
  | .acquire _ _, some _, _ => False
  | .release _ _, none, _ => False
  | .release _ next, some _, d => house.inOrder d ∧ next.Minds house duty Q none d
  | .start _ next, held, d => next.Minds house duty Q held d

theorem Minds.bind {Q : α → Desk → Prop} {R : β → Desk → Prop} {r : Act α} {f : α → Act β}
    (h : r.Minds house duty Q held d) (hf : ∀ a d, Q a d → (f a).Minds house duty R none d) :
    (r >>= f).Minds house duty R held d := by
  change (r.andThen f).Minds house duty R held d
  induction r generalizing held d with
  | done a =>
    obtain ⟨rfl, hq⟩ := h
    exact hf a d hq
  | act step next ih => cases held <;> exact fun now => ⟨(h now).1, ih now d (h now).2⟩
  | wait ms next ih =>
    cases held with
    | none => exact ⟨fun hms => ih (h.1 hms), fun hms d' hd => ih (h.2 hms d' hd)⟩
    | some t => exact ⟨fun hms => ih (h.1 hms), fun hms t' d' ho => ih (h.2 hms t' d' ho)⟩
  | acquire l next ih =>
    cases held with
    | none => exact fun d' ha hd => ih (h d' ha hd)
    | some t => exact h
  | release l next ih =>
    cases held with
    | none => exact h
    | some t => exact ⟨h.1, ih h.2⟩
  | start j next ih => exact ih h

theorem Minds.discard {Q : Desk → Prop} {r : Act α} (h : r.Minds house duty (fun _ => Q) none d) :
    (discard r).Minds house duty (fun _ => Q) none d :=
  Minds.bind (f := fun _ => .done ()) h fun _ _ hq => ⟨rfl, hq⟩

theorem Steps.minds (hl : house.Lasts) {r : Act α}
    (h : r.Steps fun d d' => house.always d → house.lockFree d d') (hd : house.always d) :
    r.Minds house duty (fun _ => house.always) none d := by
  induction r generalizing d with
  | done a => exact ⟨rfl, hd⟩
  | act step next ih =>
    exact fun now => ⟨(h now d).1 hd, ih now d (h now d).2 (hl.lockFree _ _ hd ((h now d).1 hd))⟩
  | wait ms next ih => exact ⟨fun _ => ih h hd, fun _ d' hd' => ih h hd'⟩
  | acquire l next => exact h.elim
  | release l next => exact h.elim
  | start j next ih => exact ih h hd

theorem Ensures.always (hl : house.Lasts) {r : Act α} {Q : α → List (Change Desk) → Desk → Prop}
    {t : List (Change Desk)} (hd : house.always d) (h : r.Ensures (house.rules duty) Q t d) :
    r.Ensures (house.rules duty) (fun a t d => Q a t d ∧ house.always d) t d :=
  Ensures.frame (fun _ _ ha => ha) (fun _ d d' _ hd ha => hl.lockFree d d' hd ha)
    (fun t _ _ _ hd hown => ⟨hown, hl.own duty t _ hown hd⟩) hd h

/-- Under the lock the work has to keep to the rules of its holder, and leave the desk in order. -/
theorem minds_locked (hl : house.Lasts) {body : Act α}
    (h : ∀ d, house.always d → house.inOrder d →
      body.Ensures (house.rules duty) (fun _ _ d => house.inOrder d) [] d) :
    (locked () body).Minds house duty (fun _ => house.always) none d := by
  intro d' ha hd
  have hbody := (h d' ha hd).always hl ha
  clear h ha hd
  revert hbody
  generalize ([] : List (Change Desk)) = t
  intro hbody
  induction body generalizing t d' with
  | done a => exact ⟨hbody.1, rfl, hbody.2⟩
  | act step next ih => exact fun now => ⟨(hbody now).1, ih now d' _ _ (hbody now).2⟩
  | wait ms next ih =>
    exact ⟨fun hms => ih d' t (hbody.1 hms), fun hms t' d' ho => ih d' t' (hbody.2 hms t' d' ho)⟩
  | acquire l next => exact hbody.elim
  | release l next => exact hbody.elim
  | start j next ih => exact ih d' t hbody

end Routine

/-- How a clerk who holds the lock, or does not, goes on with their work. -/
inductive Clerk.Goes (c : Clerk) : Bool → Clerk → Bool → Prop
  | act {holds : Bool} {step : Nat → Desk → Desk} {next : Nat → Desk → Act (Option Errand)}
      (now : Nat) (d : Desk) : c.rest = .act step next → Goes c holds ⟨c.duty, next now d⟩ holds
  | wait {holds : Bool} {ms : Nat} {next : Act (Option Errand)} : c.rest = .wait ms next →
      Goes c holds ⟨c.duty, next⟩ holds
  | lock {next : Act (Option Errand)} : c.rest = .acquire () next →
      Goes c false ⟨c.duty, next⟩ true
  | unlock {next : Act (Option Errand)} : c.rest = .release () next →
      Goes c true ⟨c.duty, next⟩ false
  | start {holds : Bool} {j : Errand} {next : Act (Option Errand)} : c.rest = .start j next →
      Goes c holds ⟨c.duty, next⟩ holds

theorem Clerk.Goes.duty {c c' : Clerk} {holds holds' : Bool} (h : c.Goes holds c' holds') :
    c'.duty = c.duty := by
  cases h <;> rfl

namespace Office
variable {house : House} {ask : Request → Prop} {outside : Desk → Desk → Prop} {o o' : Office}

/-- This is so of everyone who is there and of what they have left to do, with the lock or
without it. -/
structure Manned (P : Clerk → Bool → Prop) (o : Office) : Prop where
  idle : ∀ c ∈ o.idle, P c false
  busy : ∀ c holds, o.busy = some (c, holds) → P c holds
  keeper : ∀ c, o.keeper = some c → P c true

/-- What stays so while work goes on, and is so of whoever comes, is so of everyone. -/
theorem Manned.step {P : Clerk → Bool → Prop}
    (hgoes : ∀ c holds c' holds', P c holds → c.Goes holds c' holds' → P c' holds')
    (hrequest : ∀ r, ask r → P (.fresh (.request r)) false)
    (herrand : ∀ e, P (.fresh (.errand e)) false)
    (h : o.Manned P) (hs : Step ask outside o o') : o'.Manned P := by
  have hcome {c : Clerk} {idle : List Clerk} (hc : P c false) (hidle : ∀ c ∈ idle, P c false) :
      ∀ c' ∈ c :: idle, P c' false := List.forall_mem_cons.2 ⟨hc, hidle⟩
  have hwork {c c' : Clerk} {holds holds' : Bool} (hbusy : o.busy = some (c, holds))
      (hgo : c.Goes holds c' holds') (x : Clerk) (holds'' : Bool)
      (hx : some (c', holds') = some (x, holds'')) : P x holds'' := by
    cases hx
    exact hgoes _ _ _ _ (h.busy c holds hbusy) hgo
  have hnobody (x : Clerk) (holds : Bool) (hx : none = some (x, holds)) : P x holds := by cases hx
  cases hs with
  | call r hbusy hask => exact ⟨hcome (hrequest r hask) h.idle, h.busy, h.keeper⟩
  | befall now d hbusy hout => exact ⟨h.idle, h.busy, h.keeper⟩
  | @resume c before after hbusy hidle =>
    have hall := h.idle
    rw [hidle] at hall
    refine ⟨fun c' hc => hall c' ?_, fun x holds hx => ?_, h.keeper⟩
    · simp only [List.mem_append, List.mem_cons] at hc ⊢
      exact hc.imp_right .inr
    · cases hx
      exact hall c (by simp)
  | @wake c hbusy hkeeper =>
    refine ⟨h.idle, fun x holds hx => ?_, fun x hx => ?_⟩
    · cases hx
      exact h.keeper c hkeeper
    · cases hx
  | act now hbusy hrest => exact ⟨h.idle, hwork hbusy (.act now _ hrest), h.keeper⟩
  | goOn hbusy hrest => exact ⟨h.idle, hwork hbusy (.wait hrest), h.keeper⟩
  | @sleep c holds ms next hbusy hrest hms =>
    have hnext := hgoes _ _ _ _ (h.busy c holds hbusy) (.wait hrest)
    cases holds with
    | true =>
      refine ⟨h.idle, hnobody, fun x hx => ?_⟩
      cases hx
      exact hnext
    | false => exact ⟨hcome hnext h.idle, hnobody, h.keeper⟩
  | @queue c next hbusy hrest => exact ⟨hcome (h.busy c false hbusy) h.idle, hnobody, h.keeper⟩
  | lock hbusy hrest hkeeper => exact ⟨h.idle, hwork hbusy (.lock hrest), h.keeper⟩
  | unlock hbusy hrest => exact ⟨h.idle, hwork hbusy (.unlock hrest), h.keeper⟩
  | start hbusy hrest =>
    exact ⟨hcome (herrand _) h.idle, hwork hbusy (.start hrest), h.keeper⟩
  | finish hbusy hrest => exact ⟨h.idle, hnobody, h.keeper⟩
  | carryOn hbusy hrest => exact ⟨hcome (herrand _) h.idle, hnobody, h.keeper⟩

def Heeds (house : House) (c : Clerk) : Prop :=
  ∀ d, house.always d → c.rest.Minds house c.duty (fun _ _ => True) none d

/-- Everyone keeps to the rules from here on, and the desk is in order while the lock is free. -/
structure Proper (house : House) (o : Office) : Prop where
  idle : ∀ c ∈ o.idle, Heeds house c
  busy : ∀ c holds, o.busy = some (c, holds) →
    c.rest.Minds house c.duty (fun _ _ => True) (if holds then some o.tenure else none) o.desk
  keeper : ∀ c, o.keeper = some c → ∀ t d, Amid house.lockFree o.tenure o.desk t d →
    c.rest.Minds house c.duty (fun _ _ => True) (some t) d
  alone : ∀ c, o.busy = some (c, true) → o.keeper = none
  inOrder : o.keeper = none → (∀ c, o.busy ≠ some (c, true)) → house.inOrder o.desk
  always : house.always o.desk

theorem Proper.goOn {c c' : Clerk} {holds : Bool} {idle : List Clerk} (hp : o.Proper house)
    (hbusy : o.busy = some (c, holds)) (hidle : ∀ c ∈ idle, Heeds house c)
    (hc : c'.rest.Minds house c'.duty (fun _ _ => True) (if holds then some o.tenure else none)
      o.desk) :
    Proper house { o with busy := some (c', holds), idle := idle } := by
  refine ⟨hidle, ?_, hp.keeper, ?_, ?_, hp.always⟩
  · intro x y hb
    cases hb
    exact hc
  · intro x hb
    cases hb
    exact hp.alone c hbusy
  · intro hk hb
    apply hp.inOrder hk
    intro x hx
    rw [hbusy] at hx
    cases hx
    exact hb c' rfl

theorem Proper.leave {c : Clerk} {idle : List Clerk} (hp : o.Proper house)
    (hbusy : o.busy = some (c, false)) (hidle : ∀ c ∈ idle, Heeds house c) :
    Proper house { o with busy := none, idle := idle } := by
  refine ⟨hidle, ?_, hp.keeper, ?_, fun hk _ => hp.inOrder hk (by simp [hbusy]), hp.always⟩
  · intro x y hb
    cases hb
  · intro x hb
    cases hb

theorem Proper.act {c : Clerk} {holds : Bool} {step : Nat → Desk → Desk}
    {next : Nat → Desk → Act (Option Errand)} (hl : house.Lasts)
    (hp : o.Proper house) (now : Nat) (hbusy : o.busy = some (c, holds))
    (hrest : c.rest = .act step next) :
    Proper house { o.change holds now (step now o.desk) with
      busy := some (⟨c.duty, next now o.desk⟩, holds) } := by
  have hc := hp.busy c holds hbusy
  rw [hrest] at hc
  cases holds with
  | true =>
    have hk := hp.alone c hbusy
    refine ⟨hp.idle, ?_, ?_, fun _ _ => hk, fun _ hb => (hb _ rfl).elim, ?_⟩
    · intro x holds hb
      cases hb
      exact (hc now).2
    · intro x hx
      rw [show o.keeper = some x from hx] at hk
      cases hk
    · exact hl.own _ _ _ (hc now).1 hp.always
  | false =>
    refine ⟨hp.idle, ?_, ?_, ?_, ?_, hl.lockFree _ _ hp.always (hc now).1⟩
    · intro x holds hb
      cases hb
      exact (hc now).2
    · exact fun x hx t d ho => hp.keeper x hx t d (.head now (hc now).1 ho)
    · intro x hb
      cases hb
    · exact fun hk _ => hl.order _ _ hp.always (hp.inOrder hk (by simp [hbusy])) (hc now).1

/-- Every step keeps to the rules, provided that whatever befalls the desk and whoever comes to it
does. -/
theorem Proper.step (hl : house.Lasts) (hlockFree : ∀ d d', outside d d' → house.lockFree d d')
    (hrequest : ∀ r, ask r → Heeds house (.fresh (.request r)))
    (herrand : ∀ e, Heeds house (.fresh (.errand e)))
    (hp : o.Proper house) (hs : Step ask outside o o') : o'.Proper house := by
  have hnew (e : Errand) : ∀ c ∈ Clerk.fresh (.errand e) :: o.idle, Heeds house c :=
    List.forall_mem_cons.2 ⟨herrand e, hp.idle⟩
  cases hs with
  | call r hbusy hask =>
    exact ⟨List.forall_mem_cons.2 ⟨hrequest r hask, hp.idle⟩, hp.busy, hp.keeper, hp.alone,
      hp.inOrder, hp.always⟩
  | befall now d hbusy hout =>
    refine ⟨hp.idle, ?_, ?_, hp.alone, ?_, hl.lockFree _ _ hp.always (hlockFree _ _ hout)⟩
    · intro c holds hc
      rw [change, hbusy] at hc
      cases hc
    · exact fun c hc t d' ho => hp.keeper c hc t d' (.head now (hlockFree _ _ hout) ho)
    · exact fun hk hb => hl.order _ _ hp.always (hp.inOrder hk hb) (hlockFree _ _ hout)
  | @resume c before after hbusy hidle =>
    have hall := hp.idle
    rw [hidle] at hall
    refine ⟨fun c' hc => hall c' ?_, ?_, hp.keeper, ?_, ?_, hp.always⟩
    · simp only [List.mem_append, List.mem_cons] at hc ⊢
      exact hc.imp_right .inr
    · intro x holds hb
      cases hb
      exact hall c (by simp) _ hp.always
    · intro x hb
      cases hb
    · exact fun hk _ => hp.inOrder hk (by simp [hbusy])
  | @wake c hbusy hkeeper =>
    refine ⟨hp.idle, ?_, ?_, fun _ _ => rfl, fun _ hb => (hb c rfl).elim, hp.always⟩
    · intro x holds hb
      cases hb
      exact hp.keeper c hkeeper _ _ .rest
    · intro x hk
      cases hk
  | @act c holds step next now hbusy hrest => exact hp.act hl now hbusy hrest
  | @goOn c holds next hbusy hrest =>
    have hc := hp.busy c holds hbusy
    rw [hrest] at hc
    refine hp.goOn hbusy hp.idle ?_
    cases holds <;> exact hc.1 rfl
  | @sleep c holds ms next hbusy hrest hms =>
    have hc := hp.busy c holds hbusy
    rw [hrest] at hc
    cases holds with
    | true =>
      refine ⟨hp.idle, ?_, ?_, ?_, ?_, hp.always⟩
      · intro x holds hb
        cases hb
      · intro x hx
        cases hx
        exact hc.2 hms
      · intro x hb
        cases hb
      · intro hk
        cases hk
    | false => exact hp.leave hbusy (List.forall_mem_cons.2 ⟨hc.2 hms, hp.idle⟩)
  | @queue c next hbusy hrest =>
    have hc := hp.busy c false hbusy
    refine hp.leave hbusy (List.forall_mem_cons.2 ⟨fun d' hd => ?_, hp.idle⟩)
    rw [hrest] at hc ⊢
    exact hc
  | @lock c next hbusy hrest hkeeper =>
    have hc := hp.busy c false hbusy
    rw [hrest] at hc
    refine ⟨hp.idle, ?_, ?_, fun _ _ => hkeeper, fun _ hb => (hb _ rfl).elim, hp.always⟩
    · intro x holds hb
      cases hb
      exact hc o.desk hp.always (hp.inOrder hkeeper (by simp [hbusy]))
    · intro x hx
      rw [show o.keeper = some x from hx] at hkeeper
      cases hkeeper
  | @unlock c next hbusy hrest =>
    have hc := hp.busy c true hbusy
    rw [hrest] at hc
    refine ⟨hp.idle, ?_, hp.keeper, ?_, fun _ _ => hc.1, hp.always⟩
    · intro x holds hb
      cases hb
      exact hc.2
    · intro x hb
      cases hb
  | @start c holds j next hbusy hrest =>
    have hc := hp.busy c holds hbusy
    rw [hrest] at hc
    refine hp.goOn hbusy (hnew j) ?_
    cases holds <;> exact hc
  | @finish c hbusy hrest => exact hp.leave hbusy hp.idle
  | @carryOn c j hbusy hrest => exact hp.leave hbusy (hnew j)

theorem Proper.run (hl : house.Lasts) (hlockFree : ∀ d d', outside d d' → house.lockFree d d')
    (hrequest : ∀ r, ask r → Heeds house (.fresh (.request r)))
    (herrand : ∀ e, Heeds house (.fresh (.errand e)))
    (hp : o.Proper house) (hr : Run ask outside o o') : o'.Proper house := by
  induction hr with
  | refl => exact hp
  | tail _ hs ih => exact ih.step hl hlockFree hrequest herrand hs

theorem Proper.visit {c : Clerk} (hp : o.Proper house) (hc : Heeds house c) :
    Proper house { o with idle := c :: o.idle } :=
  ⟨List.forall_mem_cons.2 ⟨hc, hp.idle⟩, hp.busy, hp.keeper, hp.alone, hp.inOrder, hp.always⟩

theorem Proper.of_rest (hbusy : o.busy = none) (hkeeper : o.keeper = none)
    (hidle : ∀ c ∈ o.idle, Heeds house c) (horder : house.inOrder o.desk)
    (halways : house.always o.desk) : o.Proper house := by
  refine ⟨hidle, ?_, ?_, ?_, fun _ _ => horder, halways⟩
  · intro c holds hc
    rw [hbusy] at hc
    cases hc
  · intro c hc
    rw [hkeeper] at hc
    cases hc
  · intro c hc
    rw [hbusy] at hc
    cases hc

/-- What a step adds to the tenure of the lock is done without it, or by its holder as the rules
allow. -/
theorem Proper.tenure (hlockFree : ∀ d d', outside d d' → house.lockFree d d') (hp : o.Proper house)
    (hs : Step ask outside o o') :
    (o'.desk = o.desk ∧ (o'.tenure = o.tenure ∨ o'.tenure = [])) ∨
      ∃ own now, o'.tenure = ⟨own, now, o.desk, o'.desk⟩ :: o.tenure ∧
        if own then ∃ c, o.busy = some (c, true) ∧
          house.own c.duty o.tenure ⟨true, now, o.desk, o'.desk⟩
        else house.lockFree o.desk o'.desk := by
  cases hs with
  | befall now d _ hout => exact .inr ⟨false, now, rfl, hlockFree _ _ hout⟩
  | @act c holds step next now hbusy hrest =>
    have hc := hp.busy c holds hbusy
    rw [hrest] at hc
    refine .inr ⟨holds, now, rfl, ?_⟩
    cases holds with
    | true => exact ⟨c, hbusy, (hc now).1⟩
    | false => exact (hc now).1
  | @sleep c holds => cases holds <;> exact .inl ⟨rfl, .inl rfl⟩
  | lock => exact .inl ⟨rfl, .inr rfl⟩
  | _ => exact .inl ⟨rfl, .inl rfl⟩

theorem Proper.deed (hlockFree : ∀ d d', outside d d' → house.lockFree d d') (hp : o.Proper house)
    (hs : Step ask outside o o') :
    o'.desk = o.desk ∨ house.lockFree o.desk o'.desk ∨
      ∃ c now, o.busy = some (c, true) ∧
        house.own c.duty o.tenure ⟨true, now, o.desk, o'.desk⟩ := by
  rcases hp.tenure hlockFree hs with ⟨hsame, -⟩ | ⟨own, now, -, hdeed⟩
  · exact .inl hsame
  · cases own with
    | true =>
      obtain ⟨c, hbusy, hown⟩ := hdeed
      exact .inr (.inr ⟨c, now, hbusy, hown⟩)
    | false => exact .inr (.inl hdeed)

end Office
end Failover
