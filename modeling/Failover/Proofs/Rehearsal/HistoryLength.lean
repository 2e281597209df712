import Mathlib.Algebra.BigOperators.Intervals
import Failover.Proofs.Rehearsal.DueTimes

/-!
How long the history of a rehearsal can become. If the rounds of every arming let time pass, what is
asked for pays for all that follows upon it until a given time: each entry that a run writes lowers
what the run may still cost.
-/
namespace Failover.Rehearsal
open Repeater

def Arming.depth : Arming → Nat
  | { successor := none, .. } => 1
  | { successor := some b, .. } => b.depth + 1

/-- Between the beginnings of two rounds there is time, and so it is with what the last one arms. -/
inductive Arming.Passes : Arming → Prop
  | intro {a : Arming} : (0 < a.period ∨ ∀ n, 0 < a.lengthOf n) →
      (∀ b, a.successor = some b → b.Passes) → a.Passes

/-- How many entries a run of the arming may write, with all that it arms, while there are so many
milliseconds left. -/
def Arming.allowance (a : Arming) (left : Nat) : Nat := 3 * a.depth * left

/-- How many entries a run may still write up to the time `T`, with all that it may arm. -/
def Course.cost (τ : Timer) (T : Nat) : Course → Nat
  | .waits a _ due => a.allowance (T + 1 - due)
  | .works a n due =>
    if n = a.stopAfter then (a.successor.elim 0 fun b => b.allowance (T + 1 - due)) + 2
    else a.allowance (T + 1 - (due + τ.lasting due a.period)) + 1

/-- How many entries all runs may still write. -/
def outstanding (τ : Timer) (T : Nat) (h : List Entry) : Nat :=
  ∑ g ∈ Finset.range (runs (events h) + 1), (course τ g h).elim 0 (Course.cost τ T)

def Note.arming? : Note → Option Arming
  | .arms a _ => some a
  | .restarts a => some a
  | _ => none

/-- An entry that was asked for costs itself, and what it may lead to. -/
def Entry.price (T : Nat) (e : Entry) : Nat := 1 + e.note.arming?.elim 0 fun a => a.allowance (T + 1)

def Passing (h : List Entry) : Prop :=
  ∀ e ∈ h, e.asked = true → ∀ a, e.note.arming? = some a → a.Passes

/-- The history goes on without anyone asking for it: a round begins or ends, or the last round of a
run arms the repeater anew and ends at once. -/
inductive Ensues (h : List Entry) : List Entry → Prop
  | refl : Ensues h h
  | begins {h' : List Entry} (time g : Nat) (a : Arming) :
      Ensues h h' → Ensues h ({ time, note := .begins g a } :: h')
  | ends {h' : List Entry} (time g : Nat) (a : Arming) (goesOn : Bool) :
      Ensues h h' → Ensues h ({ time, note := .ends g a goesOn } :: h')
  | rearms {h' : List Entry} (time g : Nat) (a b : Arming) : a.successor = some b →
      Ensues h h' →
      Ensues h ({ time, note := .ends g a false } :: { time, note := .restarts b } :: h')

section
variable {τ : Timer} {T g left left' : Nat} {a b : Arming} {e : Entry} {h h' : List Entry}

theorem Arming.allowance_le (a : Arming) (hle : left ≤ left') :
    a.allowance left ≤ a.allowance left' :=
  Nat.mul_le_mul_left _ hle

theorem Arming.depth_pos (a : Arming) : 0 < a.depth := by
  obtain ⟨id, delay, period, length, lengthOf, stopAfter, _ | b⟩ := a <;> simp [Arming.depth]

theorem Arming.allowance_add_le (a : Arming) (hlt : left < left') :
    a.allowance left + 3 ≤ a.allowance left' :=
  calc
    a.allowance left + 3 ≤ 3 * a.depth * left + 3 * a.depth :=
      Nat.add_le_add_left (Nat.mul_le_mul_left 3 a.depth_pos) _
    _ = a.allowance (left + 1) := (Nat.mul_succ _ _).symm
    _ ≤ a.allowance left' := a.allowance_le hlt

theorem Arming.allowance_successor_add_le (hs : a.successor = some b) (hleft : 0 < left) :
    b.allowance left + 3 ≤ a.allowance left := by
  have hdepth : a.depth = b.depth + 1 := by
    obtain ⟨id, delay, period, length, lengthOf, stopAfter, successor⟩ := a
    obtain rfl : successor = some b := hs
    rfl
  rw [allowance, allowance, hdepth, Nat.mul_succ, Nat.add_mul]
  omega

theorem Passing.of_cons (hp : Passing (e :: h)) : Passing h :=
  fun e' he' => hp e' (List.mem_cons_of_mem _ he')

/-- What a run is about lets time pass. -/
theorem Passing.course (ht : Timely τ h) (hp : Passing h) :
    (∀ g a since due, course τ g h = some (.waits a since due) → a.Passes) ∧
      ∀ g a n due, course τ g h = some (.works a n due) → a.Passes := by
  induction h with
  | nil => exact ⟨nofun, nofun⟩
  | cons e h ih =>
    obtain ⟨hh, he, -⟩ := ht
    obtain ⟨hwaits, hworks⟩ := ih hh hp.of_cons
    have hasked : e.asked = true → ∀ a, e.note.arming? = some a → a.Passes :=
      hp e List.mem_cons_self
    obtain ⟨time, note, asked⟩ := e
    cases note with
    | arms a granted =>
      have ha := hasked he.1 a rfl
      constructor <;> intro g <;> simp only [Rehearsal.course] <;> grind
    | restarts b =>
      have hb : b.Passes := by
        rcases he with he | ⟨g, a, n, hc, -, hs⟩
        · exact hasked he b rfl
        · obtain ⟨-, hnext⟩ := hworks _ _ _ _ hc
          exact hnext b hs
      constructor <;> intro g <;> simp only [Rehearsal.course] <;> grind
    | cancels => exact ⟨hwaits, hworks⟩
    | begins g' a =>
      obtain ⟨⟨since, hc⟩, -⟩ := he
      have ha := hwaits _ _ _ _ hc
      constructor <;> intro g <;> simp only [Rehearsal.course] <;> grind
    | ends g' a goesOn =>
      obtain ⟨n, hc, -⟩ := he
      have ha := hworks _ _ _ _ hc
      constructor <;> intro g <;> simp only [Rehearsal.course] <;> grind

theorem outstanding_cons_run (hg : g ≤ runs (events h)) (hrun : e.event.run? = some g) :
    outstanding τ T (e :: h) + (course τ g h).elim 0 (Course.cost τ T) =
      outstanding τ T h + (course τ g (e :: h)).elim 0 (Course.cost τ T) := by
  have hstart : e.event.startsRun = false := by
    obtain ⟨time, note, asked⟩ := e
    cases note <;> simp_all [Entry.event, Event.run?, Event.startsRun]
  have hmem : g ∈ Finset.range (runs (events h) + 1) := Finset.mem_range.2 (by omega)
  have hothers : ∀ x ∈ (Finset.range (runs (events h) + 1)).erase g,
      (course τ x (e :: h)).elim 0 (Course.cost τ T) = (course τ x h).elim 0 (Course.cost τ T) := by
    intro x hx
    have hne : g ≠ x := (Finset.ne_of_mem_erase hx).symm
    rw [course_cons (by simp [hrun, hne]) (by simp [hstart])]
  have hruns : runs (events (e :: h)) = runs (events h) := by simp [runs_cons, hstart]
  rw [outstanding, outstanding, hruns, ← Finset.add_sum_erase _ _ hmem,
    ← Finset.add_sum_erase _ _ hmem, Finset.sum_congr rfl hothers]
  omega

theorem outstanding_cons (hrun : e.event.run? = none) :
    outstanding τ T (e :: h) = outstanding τ T h +
      (if e.event.startsRun then (course τ (runs (events h) + 1) (e :: h)).elim 0 (Course.cost τ T)
        else 0) := by
  have hothers : ∀ x ∈ Finset.range (runs (events h) + 1),
      (course τ x (e :: h)).elim 0 (Course.cost τ T) = (course τ x h).elim 0 (Course.cost τ T) := by
    intro x hx
    have hle := Finset.mem_range.1 hx
    rw [course_cons (by simp [hrun]) (by omega)]
  rw [outstanding, outstanding, events_cons, runs_cons]
  split
  · rw [Finset.sum_range_succ, Finset.sum_congr rfl hothers]
  · exact Finset.sum_congr rfl hothers

/-- When a round begins, what its run may still cost pays for that. -/
theorem cost_works_le {due : Nat} (ha : a.Passes) (hdue : due ≤ T) (n since : Nat) :
    Course.cost τ T (.works a n (due + τ.lasting due (a.lengthOf n))) + 1 ≤
      Course.cost τ T (.waits a since due) := by
  obtain ⟨htime, -⟩ := ha
  simp only [Course.cost]
  split
  · cases hs : a.successor with
    | none =>
      have := a.allowance_add_le (show 0 < T + 1 - due by omega)
      simp only [Option.elim_none]
      omega
    | some b =>
      have hpaid := Arming.allowance_successor_add_le hs (show 0 < T + 1 - due by omega)
      have hless := b.allowance_le
        (show T + 1 - (due + τ.lasting due (a.lengthOf n)) ≤ T + 1 - due by omega)
      simp only [Option.elim_some]
      omega
  · -- some time passes before the next round begins
    have hlater : 0 < τ.lasting due (a.lengthOf n) + τ.lasting
        (due + τ.lasting due (a.lengthOf n)) a.period := by
      simp only [Nat.pos_iff_ne_zero, ne_eq, Nat.add_eq_zero_iff, Timer.lasting_eq_zero]
      rcases htime with hperiod | hlength
      · omega
      · have := hlength n
        omega
    have := a.allowance_add_le (show T + 1 - (due + τ.lasting due (a.lengthOf n) +
      τ.lasting (due + τ.lasting due (a.lengthOf n)) a.period) < T + 1 - due by omega)
    omega

theorem outstanding_begins {time : Nat} (ht : Timely τ ({ time, note := .begins g a } :: h))
    (hT : time ≤ T) (hp : Passing h) :
    outstanding τ T ({ time, note := .begins g a } :: h) + 1 ≤ outstanding τ T h := by
  obtain ⟨hh, ⟨⟨since, hc⟩, -⟩, -⟩ := ht
  have hcost := cost_works_le (τ := τ) ((hp.course hh).1 _ _ _ _ hc) hT
    (count a.id (log ({ time, note := .begins g a } :: h))) since
  have hsum := outstanding_cons_run (τ := τ) (T := T) (e := { time, note := .begins g a })
    (le_runs_of_course hh hc) rfl
  simp only [hc, course, if_true, Option.elim_some] at hsum
  omega

theorem outstanding_ends {time : Nat} {goesOn : Bool}
    (ht : Timely τ ({ time, note := .ends g a goesOn } :: h)) :
    outstanding τ T ({ time, note := .ends g a goesOn } :: h) + 1 ≤ outstanding τ T h := by
  obtain ⟨hh, ⟨n, hc, hgoes⟩, -⟩ := ht
  have hsum := outstanding_cons_run (τ := τ) (T := T) (e := { time, note := .ends g a goesOn })
    (le_runs_of_course hh hc) rfl
  simp only [hc, course, if_true, Option.elim_some, Course.cost] at hsum
  by_cases hn : n = a.stopAfter
  · simp only [hn, ne_eq, not_true, decide_false] at hgoes
    simp only [hgoes, hn, if_true, Bool.false_eq_true, if_false, Option.elim_none] at hsum ⊢
    omega
  · simp only [hn, ne_eq, not_false_iff, decide_true] at hgoes
    simp only [hgoes, hn, if_true, if_false, Option.elim_some, Course.cost] at hsum ⊢
    omega

/-- The last round of a run has kept what the run costs that it arms. -/
theorem outstanding_rearms {time : Nat} (hs : a.successor = some b)
    (ht : Timely τ ({ time, note := .ends g a false } :: { time, note := .restarts b } :: h)) :
    outstanding τ T ({ time, note := .ends g a false } :: { time, note := .restarts b } :: h) + 2 ≤
      outstanding τ T h := by
  obtain ⟨hh, ⟨n, hc, hgoes⟩, -⟩ := ht
  have hn : n = a.stopAfter := by simpa using hgoes
  have hstart := outstanding_cons (τ := τ) (T := T) (e := { time, note := .restarts b }) (h := h)
    rfl
  have hsum := outstanding_cons_run (τ := τ) (T := T) (e := { time, note := .ends g a false })
    (le_runs_of_course hh hc) rfl
  have hless := b.allowance_le
    (show T + 1 - (time + τ.lasting time b.delay) ≤ T + 1 - time by omega)
  simp only [Entry.event, Event.startsRun, course, if_true, Option.elim_some, Course.cost]
    at hstart
  simp only [hc, hn, hs, Option.elim_some, Course.cost, if_true] at hsum
  simp only [course, if_true, Bool.false_eq_true, if_false, Option.elim_none] at hsum
  omega

theorem Ensues.asked (hh : Ensues h h') : h'.filter (·.asked) = h.filter (·.asked) := by
  induction hh with
  | refl => rfl
  | begins | ends | rearms => simpa

theorem Ensues.trans {h'' : List Entry} (h₁ : Ensues h h') (h₂ : Ensues h' h'') :
    Ensues h h'' := by
  induction h₂ with
  | refl => exact h₁
  | begins time g a _ ih => exact ih.begins time g a
  | ends time g a goesOn _ ih => exact ih.ends time g a goesOn
  | rearms time g a b hs _ ih => exact ih.rearms time g a b hs

theorem Ensues.length_le (hh : Ensues h h') : h.length ≤ h'.length := by
  induction hh with
  | refl => exact Nat.le_refl _
  | begins | ends | rearms => simp only [List.length_cons]; omega

/-- What ensues has been paid for. -/
theorem Ensues.length_add_outstanding_le (hh : Ensues h h') (ht : Timely τ h')
    (hT : ∀ e ∈ h', e.time ≤ T) (hp : Passing h') :
    h'.length + outstanding τ T h' ≤ h.length + outstanding τ T h := by
  induction hh with
  | refl => exact Nat.le_refl _
  | begins time g a _ ih =>
    obtain ⟨hnow, hbefore⟩ := List.forall_mem_cons.1 hT
    have hpaid := outstanding_begins ht hnow hp.of_cons
    have := ih ht.1 hbefore hp.of_cons
    simp only [List.length_cons]
    omega
  | ends time g a goesOn _ ih =>
    have hpaid := outstanding_ends (T := T) ht
    have := ih ht.1 (List.forall_mem_cons.1 hT).2 hp.of_cons
    simp only [List.length_cons]
    omega
  | rearms time g a b hs _ ih =>
    have hpaid := outstanding_rearms (T := T) hs ht
    have := ih ht.1.1 (fun e he => hT e (by simp [he])) hp.of_cons.of_cons
    simp only [List.length_cons]
    omega

theorem outstanding_asked_le (hrun : e.event.run? = none) :
    1 + outstanding τ T (e :: h) ≤ e.price T + outstanding τ T h := by
  rw [outstanding_cons hrun, Entry.price]
  obtain ⟨time, note, asked⟩ := e
  have hless (a : Arming) :
      a.allowance (T + 1 - (time + τ.lasting time a.delay)) ≤ a.allowance (T + 1) :=
    a.allowance_le (Nat.sub_le _ _)
  cases note with
  | begins | ends => simp [Entry.event, Event.run?] at hrun
  | cancels => simp [Entry.event, Event.startsRun, Note.arming?]
  | arms a granted =>
    have := hless a
    cases granted
    · simp only [Entry.event, Event.startsRun, Bool.false_eq_true, if_false, Note.arming?]
      omega
    · simp only [Entry.event, Event.startsRun, course, true_and, if_true, Option.elim_some,
        Course.cost, Note.arming?]
      omega
  | restarts a =>
    have := hless a
    simp only [Entry.event, Event.startsRun, course, if_true, Option.elim_some, Course.cost,
      Note.arming?]
    omega

end
end Failover.Rehearsal
