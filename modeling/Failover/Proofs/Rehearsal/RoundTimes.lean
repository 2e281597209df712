import Failover.Proofs.Rehearsal.HistoryLength
import Failover.Proofs.Rehearsal.Cues

/-!
The virtual clock keeps the rounds of a rehearsal to their times: whether the machine resumes a run,
moves the clock or does what a step asks for, what this adds to the history is due.
-/
namespace Failover
namespace Machine
variable {σ ℓ κ : Type} [DecidableEq ℓ]

theorem now_unlock (l : ℓ) (m : Machine σ ℓ κ) : (m.unlock l).now = m.now := by
  unfold unlock
  split <;> rfl

theorem now_activate (body : κ → Task σ ℓ κ) (t : Task σ ℓ κ) (m : Machine σ ℓ κ) :
    (activate body t m).now = m.now := by
  induction t generalizing m with
  | done job => cases job <;> rfl
  | act step next ih => exact ih _ _ _
  | wait ms next ih =>
    simp only [activate]
    split
    · exact ih m
    · rfl
  | acquire l next ih =>
    simp only [activate]
    split
    · rfl
    · exact ih _
  | release l next ih => exact (ih _).trans (now_unlock l m)
  | start job next ih => exact ih _

end Machine

namespace Rehearsal
open Repeater

/-- The machine shows the history and the cues. -/
structure Shows (τ : Timer) (limit : Nat) (h : List Entry) (ready : List Cue)
    (asleep : List (Nat × Cue)) (m : Machine Stage Unit Round) : Prop where
  repeater : m.state.repeater = replay (events h)
  log : m.state.log = log h
  ready : m.ready = ready.map Cue.task
  asleep : m.asleep = asleep.map fun x => (x.1, x.2.task)
  timer : m.timer = τ
  patience : m.patience = limit

section
variable {τ : Timer} {limit k k' g since : Nat} {h h' : List Entry} {ready : List Cue}
  {asleep : List (Nat × Cue)} {c : Cue} {r : Round} {m : Machine Stage Unit Round}

theorem body_eq (r : Round) : body r = .wait r.wait (afterWait r) := rfl

theorem activate_afterWork_of_ne {n : Nat} (hn : n ≠ r.arming.stopAfter) :
    Machine.activate body (afterWork r n) m =
      { m with ready := body { r with wait := r.arming.period } :: m.ready } := by
  simp only [afterWork, verdict, if_neg hn]
  rfl

theorem activate_afterWork_last {n : Nat} (hn : n = r.arming.stopAfter)
    (hs : r.arming.successor = none) :
    Machine.activate body (afterWork r n) m =
      { m with state := { m.state with repeater := m.state.repeater.finish r.generation } } := by
  simp only [afterWork, verdict, if_pos hn, hs]
  rfl

theorem activate_afterWork_rearms {n : Nat} {b : Arming} (hn : n = r.arming.stopAfter)
    (hs : r.arming.successor = some b) :
    Machine.activate body (afterWork r n) m =
      { m with
        state := { m.state with
          repeater := (m.state.repeater.restart m.now).finish r.generation }
        ready := m.ready ++ [body ⟨b, m.state.repeater.generation + 1, b.delay⟩] } := by
  simp only [afterWork, verdict, if_pos hn, hs]
  obtain ⟨now, ⟨⟨generation, armed, cancelled⟩, lots, log⟩⟩ := m
  cases armed <;> rfl

def remainder (r : Round) : Routine Stage Unit Round (Option Round) := do
  conclude r (← work r.arming)

theorem activate_remainder :
    Machine.activate body (remainder r) m =
      let log := note r.arming.id m.now m.state.log
      let n := count r.arming.id log
      let m' := { m with state := { m.state with log := log } }
      if r.arming.lengthOf n = 0 then Machine.activate body (afterWork r n) m'
      else m'.sleep (r.arming.lengthOf n) (afterWork r n) := rfl

theorem activate_afterWait :
    Machine.activate body (afterWait r) m =
      if m.state.repeater.isLive r.generation then Machine.activate body (remainder r) m
      else if m.state.repeater.contested r.generation m.now r.wait then
        let m' := { m with state := { m.state with lots := m.state.lots.tail } }
        if m.state.lots.headD false then Machine.activate body (remainder r) m' else m'
      else m := by
  simp only [afterWait, admits, Routine.read, bind, Routine.andThen, Machine.activate]
  cases m.state.repeater.isLive r.generation with
  | true => rfl
  | false =>
    cases m.state.repeater.contested r.generation m.now r.wait with
    | false => rfl
    | true =>
      simp only [drawLot, Routine.transact, Routine.andThen, Machine.activate]
      cases m.state.lots.headD false <;> rfl

def Stands (τ : Timer) (limit k : Nat) (h : List Entry) (m : Machine Stage Unit Round) : Prop :=
  ∃ ready asleep, Staged τ k h m.now [] ready asleep ∧ Shows τ limit h ready asleep m

theorem stands_afterWork {n : Nat} (hm : Shows τ limit h ready asleep m)
    (p : Staged τ k h m.now [r.generation] ready asleep)
    (hc : course τ r.generation h = some (.works r.arming n m.now)) :
    ∃ h', Ensues h h' ∧ Stands τ limit k h' (Machine.activate body (afterWork r n) m) := by
  by_cases hn : n = r.arming.stopAfter
  · cases hs : r.arming.successor with
    | none =>
      rw [activate_afterWork_last hn hs]
      refine ⟨_, Ensues.refl.ends _ _ _ _, ready, asleep, p.finish hc hn, { hm with
        repeater := ?_, log := hm.log }⟩
      simp [hm.repeater, Entry.event, replay, Repeater.after]
    | some b =>
      rw [activate_afterWork_rearms hn hs]
      let e : Entry := { time := m.now, note := .restarts b }
      have hstart := p.start (e := e) (.inr ⟨_, _, n, hc, hn, hs⟩) rfl (.inl rfl)
      have hg := le_runs_of_course p.timely hc
      have hc' : course τ r.generation (e :: h) = some (.works r.arming n m.now) := by
        rw [course_cons (by simp [e, Entry.event, Event.run?]) (by omega), hc]
      have hended := hstart.finish hc' hn
      refine ⟨_, Ensues.refl.rearms _ _ _ _ hs, _, asleep, hended, { hm with
        repeater := ?_, log := hm.log, ready := ?_ }⟩
      · simp [hm.repeater, Entry.event, replay, Repeater.after]
      · simp [hm.repeater, hm.ready, generation_replay p.timely.lawful, Cue.task]
  · rw [activate_afterWork_of_ne hn]
    refine ⟨_, Ensues.refl.ends _ _ _ _, _, asleep, p.goOn hc hn, { hm with
      repeater := ?_, log := hm.log, ready := ?_ }⟩
    · simp [hm.repeater, Entry.event, replay, Repeater.after]
    · simp [hm.ready, Cue.task]

theorem exists_insertAsleep (due : Nat) (c : Cue) (hs : asleep.Pairwise fun x y => x.1 ≤ y.1) :
    ∃ before after, asleep = before ++ after ∧ (∀ x ∈ before, x.1 ≤ due) ∧
      (∀ x ∈ after, due ≤ x.1) ∧
      Machine.insertAsleep due c.task (asleep.map fun x => (x.1, x.2.task)) =
        (before ++ (due, c) :: after).map fun x => (x.1, x.2.task) := by
  induction asleep with
  | nil => exact ⟨[], [], rfl, nofun, nofun, rfl⟩
  | cons x asleep ih =>
    obtain ⟨hx, hs⟩ := List.pairwise_cons.1 hs
    by_cases hle : x.1 ≤ due
    · obtain ⟨before, after, rfl, hbefore, hafter, heq⟩ := ih hs
      refine ⟨x :: before, after, rfl, List.forall_mem_cons.2 ⟨hle, hbefore⟩, hafter, ?_⟩
      simpa [Machine.insertAsleep, hle] using heq
    · have hlt : due ≤ x.1 := by omega
      refine ⟨[], x :: asleep, rfl, nofun, List.forall_mem_cons.2 ⟨hlt, fun y hy => ?_⟩, ?_⟩
      · exact Nat.le_trans hlt (hx y hy)
      · simp [Machine.insertAsleep, hle]

theorem now_lt_due {ms : Nat} (hms : ms ≠ 0) (m : Machine Stage Unit Round) : m.now < m.due ms := by
  have hlong : m.timer.lasting m.now ms ≠ 0 := (m.timer.lasting_eq_zero _ _).not.2 hms
  simp only [Machine.due]
  omega

theorem stands_sleep {ms : Nat} (hm : Shows τ limit h ready asleep m)
    (p : Staged τ (k + 2) h m.now [c.run] ready asleep) (hms : ms ≠ 0) (hload : c.load = 1)
    (hc : course τ c.run h = some (c.course τ (m.due ms))) :
    Stands τ limit k h (m.sleep ms c.task) := by
  obtain ⟨before, after, rfl, hbefore, hafter, heq⟩ := exists_insertAsleep (m.due ms) c p.sorted
  exact ⟨ready, _, p.rest rfl hc hload (now_lt_due hms m) hbefore hafter,
    { hm with asleep := (congrArg _ hm.asleep).trans heq }⟩

/-- A run whose wait is over begins a round. -/
theorem stands_remainder (hm : Shows τ limit h ready asleep m)
    (p : Staged τ k h m.now [r.generation] ready asleep)
    (hc : course τ r.generation h = some (.waits r.arming since m.now))
    (hbegins : Live (events h) r.generation ∨ Contested τ h r.generation m.now) :
    ∃ h', Ensues h h' ∧ Stands τ limit k h' (Machine.activate body (remainder r) m) := by
  rw [activate_remainder]
  let e : Entry := { time := m.now, note := .begins r.generation r.arming }
  have hlog : note r.arming.id m.now m.state.log = log (e :: h) := by rw [hm.log]; rfl
  have hbegun : Ensues h (e :: h) := Ensues.refl.begins _ _ _
  have p' := p.begin hc hbegins
  simp only [hlog]
  generalize hn : count r.arming.id (log (e :: h)) = n
  have hc' : course τ r.generation (e :: h) =
      some (.works r.arming n (m.due (r.arming.lengthOf n))) := by
    simp [course, e, ← hn, Machine.due, hm.timer]
  have hm' : Shows τ limit (e :: h) ready asleep
      { m with state := { m.state with log := log (e :: h) } } :=
    { hm with repeater := by simp [hm.repeater, e, Entry.event, replay, Repeater.after], log := rfl }
  split
  · rename_i hshort
    have hnow : m.due (r.arming.lengthOf n) = m.now := by
      rw [Machine.due, (m.timer.lasting_eq_zero _ _).2 hshort, Nat.add_zero]
    rw [hnow] at hc'
    obtain ⟨h', hh, hstands⟩ := stands_afterWork hm' (p'.weaken (Nat.le_add_right k 3)) hc'
    exact ⟨h', hbegun.trans hh, hstands⟩
  · rename_i hlong
    exact ⟨_, hbegun, stands_sleep (c := .busy r n) hm' (p'.weaken (by omega)) hlong rfl hc'⟩

/-- Where the cancellation of a run and the end of its wait come together, the lot may say that
the round begins. -/
theorem stands_afterWait (hm : Shows τ limit h ready asleep m)
    (p : Staged τ k h m.now [r.generation] ready asleep)
    (hc : course τ r.generation h = some (.waits r.arming since m.now))
    (hzero : r.wait = 0 → since = m.now) :
    ∃ h', Ensues h h' ∧ Stands τ limit k h' (Machine.activate body (afterWait r) m) := by
  have hlive := isLive_replay p.timely.lawful r.generation
  rw [← hm.repeater] at hlive
  rw [activate_afterWait]
  by_cases hl : Live (events h) r.generation
  · rw [if_pos (hlive.2 hl)]
    exact stands_remainder hm p hc (.inl hl)
  have hthere : phase r.generation (events h) ≠ none := by simp [phase_events τ, hc]
  have hcancelled : Cancelled (events h) r.generation :=
    Classical.byContradiction fun hfree => hl ⟨hthere, hfree⟩
  have hover (lots : List Bool) :
      Stands τ limit k h { m with state := { m.state with lots } } := by
    refine ⟨ready, asleep, p.drop fun c hc' => ?_, { hm with }⟩
    obtain rfl := Option.some.inj (hc.symm.trans hc')
    exact ⟨rfl, hcancelled⟩
  rw [if_neg (fun hl' => hl (hlive.1 hl'))]
  split
  · rename_i hcontested
    have hm' : Shows τ limit h ready asleep
        { m with state := { m.state with lots := m.state.lots.tail } } := { hm with }
    rw [hm.repeater, contested_replay p.timely.lawful] at hcontested
    obtain ⟨time, hcut, hwhen⟩ := hcontested
    simp only []
    split
    · refine stands_remainder hm' p hc (.inr ⟨hcancelled, ?_⟩)
      rcases hwhen with hms | rfl
      · exact .inr ⟨r.arming, by rw [hc, hzero hms]⟩
      · exact .inl hcut
    · exact ⟨h, .refl, hover _⟩
  · exact ⟨h, .refl, hover m.state.lots⟩

theorem stands_activate (hm : Shows τ limit h ready asleep m)
    (p : Staged τ k h m.now [] (c :: ready) asleep) :
    ∃ h', Ensues h h' ∧ Stands τ limit (k + 1) h' (Machine.activate body c.task m) := by
  obtain ⟨p, hc⟩ := p.take
  cases c with
  | fresh r =>
    simp only [Cue.task, body_eq, Machine.activate]
    split
    · rename_i hnow
      have hwaits : course τ r.generation h = some (.waits r.arming m.now m.now) := by
        simpa [Cue.course, Cue.run, (τ.lasting_eq_zero _ _).2 hnow] using hc
      exact stands_afterWait hm (p.weaken (by simp [Cue.load])) hwaits fun _ => rfl
    · rename_i hlater
      refine ⟨h, .refl, stands_sleep (c := .poised r m.now hlater) hm p hlater rfl ?_⟩
      exact hc.trans (by rw [Machine.due, hm.timer]; rfl)
  | poised r since hwaited =>
    exact stands_afterWait hm p hc fun hms => absurd hms hwaited
  | busy r n => exact stands_afterWork hm p hc

theorem Stands.weaken (hs : Stands τ limit k h m) (hk : k' ≤ k) : Stands τ limit k' h m := by
  obtain ⟨ready, asleep, p, hm⟩ := hs
  exact ⟨ready, asleep, p.weaken hk, hm⟩

theorem Stands.timer (hs : Stands τ limit k h m) : m.timer = τ := by
  obtain ⟨ready, asleep, -, hm⟩ := hs
  exact hm.timer

theorem Stands.patience (hs : Stands τ limit k h m) : m.patience = limit := by
  obtain ⟨ready, asleep, -, hm⟩ := hs
  exact hm.patience

theorem Stands.turns_le (hs : Stands τ limit k h m) : k ≤ 3 * h.length := by
  obtain ⟨ready, asleep, p, -⟩ := hs
  have := p.turns
  omega

theorem Stands.next {t : Task Stage Unit Round} {rest : List (Task Stage Unit Round)}
    (hs : Stands τ limit k h m) (hready : m.ready = t :: rest) :
    ∃ h', Ensues h h' ∧
      Stands τ limit (k + 1) h' (Machine.activate body t { m with ready := rest }) := by
  obtain ⟨ready, asleep, p, hm⟩ := hs
  obtain ⟨c, ready, rfl, rfl, rfl⟩ := List.map_eq_cons_iff.1 (hm.ready.symm.trans hready)
  exact stands_activate (m := { m with ready := ready.map Cue.task }) { hm with ready := rfl } p

theorem lt_of_mem_dropWhile {t : Nat} (hs : asleep.Pairwise fun x y => x.1 ≤ y.1) :
    ∀ x ∈ asleep.dropWhile (·.1 ≤ t), t < x.1 := by
  induction asleep with
  | nil => nofun
  | cons x asleep ih =>
    obtain ⟨hx, hs⟩ := List.pairwise_cons.1 hs
    by_cases hle : x.1 ≤ t
    · simpa [List.dropWhile_cons, hle] using ih hs
    · have hlt : t < x.1 := by omega
      rw [List.dropWhile_cons_of_neg (by simpa using hle)]
      exact List.forall_mem_cons.2 ⟨hlt, fun y hy => Nat.lt_of_lt_of_le hlt (hx y hy)⟩

theorem Stands.wakeAt {t : Nat} (hs : Stands τ limit k h m) (hready : m.ready = []) (hnow : m.now ≤ t)
    (hnext : ∀ x ∈ m.asleep, t ≤ x.1) :
    Stands τ limit (k + (m.asleep.takeWhile (·.1 ≤ t)).length) h (m.wakeAt t) := by
  obtain ⟨ready, asleep, p, hm⟩ := hs
  obtain rfl : ready = [] := List.map_eq_nil_iff.1 (hm.ready.symm.trans hready)
  have hbefore : ∀ x ∈ asleep.takeWhile (·.1 ≤ t), x.1 = t := by
    intro x hx
    have hle : x.1 ≤ t := by
      simpa using List.all_eq_true.1 List.all_takeWhile x hx
    have hmem : x ∈ asleep := (List.takeWhile_prefix _).subset hx
    refine Nat.le_antisymm hle (hnext (x.1, x.2.task) ?_)
    rw [hm.asleep]
    exact List.mem_map_of_mem hmem
  rw [← List.takeWhile_append_dropWhile (p := fun x => decide (x.1 ≤ t)) (l := asleep)] at p
  have hwoken := p.wake hnow hbefore (lt_of_mem_dropWhile (by simpa using p.sorted))
  have htake : m.asleep.takeWhile (·.1 ≤ t) =
      (asleep.takeWhile (·.1 ≤ t)).map fun x => (x.1, x.2.task) := by
    rw [hm.asleep, List.takeWhile_map]
    rfl
  refine ⟨_, _, by rwa [htake, List.length_map], { hm with ready := ?_, asleep := ?_ }⟩
  · simp [Machine.wakeAt, htake, hready]
  · simp only [Machine.wakeAt, hm.asleep, List.dropWhile_map]
    rfl

theorem Stands.first {x : Nat × Task Stage Unit Round} {rest : List (Nat × Task Stage Unit Round)}
    (hs : Stands τ limit k h m) (hasleep : m.asleep = x :: rest) :
    m.now ≤ x.1 ∧ ∀ y ∈ m.asleep, x.1 ≤ y.1 := by
  obtain ⟨ready, asleep, p, hm⟩ := hs
  obtain ⟨z, asleep, rfl, rfl, rfl⟩ := List.map_eq_cons_iff.1 (hm.asleep.symm.trans hasleep)
  refine ⟨Nat.le_of_lt (p.fits_asleep z List.mem_cons_self).1, ?_⟩
  rw [hm.asleep, List.forall_mem_map]
  exact List.forall_mem_cons.2 ⟨Nat.le_refl _, (List.pairwise_cons.1 p.sorted).1⟩

/-- Waits until a time, unless there is too much to do on the way. -/
theorem Stands.idle_until {t : Nat} (hs : Stands τ limit k h m) (hnow : m.now ≤ t) (fuel : Nat) :
    let m' := Machine.idle body (fun _ => false) (some t) fuel m
    ∃ h' k', Ensues h h' ∧ Stands τ limit k' h' m' ∧ m'.now ≤ t ∧
      (m'.now = t ∨ k + fuel ≤ k') := by
  induction fuel generalizing k h m with
  | zero => exact ⟨h, k, .refl, hs, hnow, .inr (Nat.le_refl _)⟩
  | succ fuel ih =>
    simp only [Machine.idle]
    cases hready : m.ready with
    | cons task rest =>
      obtain ⟨h₁, hh, hs₁⟩ := hs.next hready
      obtain ⟨h', k', hh', hs', hle, hend⟩ := ih hs₁ (by rwa [Machine.now_activate])
      exact ⟨h', k', hh.trans hh', hs', hle, hend.imp_right (by omega)⟩
    | nil =>
      have hwait (hnext : ∀ x ∈ m.asleep, t ≤ x.1) : ∃ h' k', Ensues h h' ∧
          Stands τ limit k' h' (m.wakeAt t) ∧ (m.wakeAt t).now ≤ t ∧
          ((m.wakeAt t).now = t ∨ k + (fuel + 1) ≤ k') :=
        ⟨h, _, .refl, hs.wakeAt hready hnow hnext, Nat.le_refl _, .inl rfl⟩
      cases hasleep : m.asleep with
      | nil => exact hwait (by simp [hasleep])
      | cons x rest =>
        obtain ⟨hahead, hfirst⟩ := hs.first hasleep
        simp only [List.head?_cons, Bool.false_eq_true, if_false]
        split
        · rename_i hle
          exact hwait fun y hy => Nat.le_trans hle (hfirst y hy)
        · rename_i hlt
          have hs₁ := hs.wakeAt hready hahead hfirst
          obtain ⟨h', k', hh', hs', hle, hend⟩ := ih hs₁ (by simp only [Machine.wakeAt]; omega)
          refine ⟨h', k', hh', hs', hle, hend.imp_right fun hk => ?_⟩
          simp only [hasleep, List.takeWhile_cons, Nat.le_refl, decide_true, if_true,
            List.length_cons] at hk
          omega

theorem Stands.idle_now (hs : Stands τ limit k h m) (fuel : Nat) :
    let m' := Machine.idle body (fun _ => true) none fuel m
    ∃ h' k', Ensues h h' ∧ Stands τ limit k' h' m' ∧ m'.now = m.now ∧
      (m'.ready = [] ∨ k + fuel ≤ k') := by
  induction fuel generalizing k h m with
  | zero => exact ⟨h, k, .refl, hs, rfl, .inr (Nat.le_refl _)⟩
  | succ fuel ih =>
    simp only [Machine.idle]
    cases hready : m.ready with
    | cons task rest =>
      obtain ⟨h₁, hh, hs₁⟩ := hs.next hready
      obtain ⟨h', k', hh', hs', hnow, hend⟩ := ih hs₁
      exact ⟨h', k', hh.trans hh', hs', by rw [hnow, Machine.now_activate],
        hend.imp_right (by omega)⟩
    | nil => exact ⟨h, k, .refl, hs, rfl, .inl hready⟩

def Step.note? : Step → Option Bool → Option Note
  | .arm a, answer => answer.map (.arms a)
  | .restart a, _ => some (.restarts a)
  | .cancel, _ => some .cancels
  | .advance _, _ => none

def Step.lasting (τ : Timer) (now : Nat) : Step → Nat
  | .advance ms => τ.lasting now ms
  | _ => 0

/-- How long the steps take, the latest of them first. -/
def duration (τ : Timer) : List Step → Nat
  | [] => 0
  | step :: earlier => duration τ earlier + step.lasting τ (duration τ earlier)

/-- What a step adds to the history: what it asks for, or what ensues while it lets time pass. -/
def Follows (asked : Option Note) (now : Nat) (h h' : List Entry) : Prop :=
  match asked with
  | none => Ensues h h'
  | some note => h' = ⟨now, note, true⟩ :: h

theorem Stands.advance (hs : Stands τ limit k h m) (ms : Nat) :
    ∃ h', Ensues h h' ∧ Stands τ limit 0 h' (m.advance body ms) ∧
      (m.advance body ms).now ≤ m.now + τ.lasting m.now ms ∧
      (3 * h'.length < limit →
        (m.advance body ms).now = m.now + τ.lasting m.now ms ∧ (m.advance body ms).ready = []) := by
  have hdue : m.due ms = m.now + τ.lasting m.now ms := by rw [Machine.due, hs.timer]
  have hrun : (m.run body (Routine.pause ms)).2 =
      if ms = 0 then m else m.passUntil body (m.due ms) := rfl
  have hwait : ∃ h₁ k₁, Ensues h h₁ ∧ Stands τ limit k₁ h₁ (m.run body (Routine.pause ms)).2 ∧
      (m.run body (Routine.pause ms)).2.now ≤ m.due ms ∧
      (3 * h₁.length < limit → (m.run body (Routine.pause ms)).2.now = m.due ms) := by
    rw [hrun]
    split
    · rename_i hms
      have hnow : m.due ms = m.now := by
        rw [Machine.due, (m.timer.lasting_eq_zero _ _).2 hms, Nat.add_zero]
      exact ⟨h, k, .refl, hs, Nat.le_of_eq hnow.symm, fun _ => hnow.symm⟩
    · obtain ⟨h₁, k₁, hh, hs₁, hle, hend⟩ := hs.idle_until (Nat.le_add_right _ _) m.patience
      refine ⟨h₁, k₁, hh, hs₁, hle, fun hpatient => hend.resolve_right ?_⟩
      have := hs₁.turns_le
      rw [hs.patience]
      omega
  obtain ⟨h₁, k₁, hh, hs₁, hle, hclock⟩ := hwait
  obtain ⟨h', k', hh', hs', hnow, hend⟩ :=
    hs₁.idle_now (m.run body (Routine.pause ms)).2.patience
  have hpatience := hs₁.patience
  rw [← hdue]
  refine ⟨h', hh.trans hh', hs'.weaken (Nat.zero_le _), Nat.le_trans (Nat.le_of_eq hnow) hle,
    fun hpatient => ⟨?_, hend.resolve_right ?_⟩⟩
  · have := hh'.length_le
    exact hnow.trans (hclock (by omega))
  · have := hs'.turns_le
    omega

theorem run_arm (a : Arming) (m : Machine Stage Unit Round) :
    m.run body (arm a) = match m.state.repeater.arm? with
      | none => (false, m)
      | some r => (true, { m with
          state := { m.state with repeater := r }
          ready := m.ready ++ [body ⟨a, r.generation, a.delay⟩] }) := by
  simp only [arm, Routine.read, bind, Routine.andThen, Machine.run]
  cases m.state.repeater.arm? <;> rfl

theorem run_restart (a : Arming) (m : Machine Stage Unit Round) :
    m.run body (restart a) = ((), { m with
      state := { m.state with repeater := m.state.repeater.restart m.now }
      ready := m.ready ++ [body ⟨a, m.state.repeater.generation + 1, a.delay⟩] }) := by
  obtain ⟨now, ⟨⟨generation, armed, cancelled⟩, lots, log⟩⟩ := m
  cases armed <;> rfl

theorem Stands.cancel (hs : Stands τ limit 0 h m) :
    Stands τ limit 0 (⟨m.now, .cancels, true⟩ :: h) (perform .cancel m).2 := by
  obtain ⟨ready, asleep, p, hm⟩ := hs
  let e : Entry := ⟨m.now, .cancels, true⟩
  have hwritten : Staged τ 0 (e :: h) m.now [] ready asleep :=
    (p.write (e := e) rfl rfl (by simp [e, Entry.event, Event.run?])).weaken (Nat.zero_le _)
  exact ⟨ready, asleep, hwritten,
    { hm with repeater := congrArg (Repeater.cancel m.now) hm.repeater, log := hm.log }⟩

theorem Stands.restart (hs : Stands τ limit 0 h m) (a : Arming) :
    Stands τ limit 0 (⟨m.now, .restarts a, true⟩ :: h) (perform (.restart a) m).2 := by
  obtain ⟨ready, asleep, p, hm⟩ := hs
  let e : Entry := ⟨m.now, .restarts a, true⟩
  rw [perform, run_restart]
  refine ⟨_, asleep, p.start (e := e) (.inl rfl) rfl (.inl rfl), { hm with
    repeater := ?_, log := hm.log, ready := ?_ }⟩
  · simp [hm.repeater, Entry.event, replay, Repeater.after]
  · simp [hm.repeater, hm.ready, generation_replay p.timely.lawful, Cue.task]

theorem Stands.arm (hs : Stands τ limit 0 h m) (a : Arming) :
    ∃ granted, (perform (.arm a) m).1 = some granted ∧ (perform (.arm a) m).2.now = m.now ∧
      Stands τ limit 0 (⟨m.now, .arms a granted, true⟩ :: h) (perform (.arm a) m).2 := by
  obtain ⟨ready, asleep, p, hm⟩ := hs
  have hgranted := isSome_arm?_replay p.timely.lawful
  have hgen := generation_replay p.timely.lawful
  rw [perform, run_arm, hm.repeater]
  cases harm : (replay (events h)).arm? with
  | none =>
    let e : Entry := ⟨m.now, .arms a false, true⟩
    have hdue : e.Due τ h := ⟨rfl, by simpa [harm] using hgranted⟩
    have hwritten : Staged τ 0 (e :: h) m.now [] ready asleep :=
      (p.write hdue rfl (by simp [e, Entry.event, Event.run?])).weaken (Nat.zero_le _)
    refine ⟨false, rfl, rfl, ready, asleep, hwritten, { hm with repeater := ?_, log := hm.log }⟩
    simp [hm.repeater, Entry.event, replay, Repeater.after, harm]
  | some s =>
    have hs : s.generation = runs (events h) + 1 := by
      simp only [arm?] at harm
      grind
    let e : Entry := ⟨m.now, .arms a true, true⟩
    have hdue : e.Due τ h := ⟨rfl, by simpa [harm] using hgranted⟩
    refine ⟨true, rfl, rfl, _, asleep, p.start hdue rfl (.inr rfl), { hm with
      repeater := ?_, log := hm.log, ready := ?_ }⟩
    · simp [Entry.event, replay, Repeater.after, harm]
    · simp [hm.ready, Cue.task, hs]

theorem Stands.step (hs : Stands τ limit 0 h m) (step : Step) :
    let answer := (perform step m).1
    let m' := (perform step m).2
    ∃ h', Stands τ limit 0 h' m' ∧ Follows (step.note? answer) m'.now h h' ∧
      m'.now ≤ m.now + step.lasting τ m.now ∧
      (3 * h'.length < limit →
        m'.now = m.now + step.lasting τ m.now ∧ ∀ ms, step = .advance ms → m'.ready = []) := by
  cases step with
  | advance ms =>
    obtain ⟨h', hh, hs', hle, hclock⟩ := hs.advance ms
    refine ⟨h', hs', hh, hle, fun hpatient => ?_⟩
    obtain ⟨hnow, hdone⟩ := hclock hpatient
    exact ⟨hnow, fun _ _ => hdone⟩
  | cancel => exact ⟨_, hs.cancel, rfl, Nat.le_refl _, fun _ => ⟨rfl, by simp⟩⟩
  | restart a =>
    have hnow : (perform (.restart a) m).2.now = m.now := by rw [perform, run_restart]
    refine ⟨_, hs.restart a, ?_, Nat.le_of_eq hnow, fun _ => ⟨hnow, by simp⟩⟩
    simp [hnow, Step.note?, Follows]
  | arm a =>
    obtain ⟨granted, hanswer, hnow, hs'⟩ := hs.arm a
    refine ⟨_, hs', ?_, Nat.le_of_eq hnow, fun _ => ⟨hnow, by simp⟩⟩
    simp [hanswer, hnow, Step.note?, Follows]

/-- The machine at the beginning: how long waits take, what the lots will say, and how many times
runs may be resumed while a step waits. -/
def opening (τ : Timer) (lots : List Bool) (patience : Nat) : Machine Stage Unit Round :=
  { state := { lots }, timer := τ, patience }

/-- The machine after the steps, the latest first as in a history, and what they asked for. -/
def rehearse (m : Machine Stage Unit Round) : List Step → Machine Stage Unit Round × List Entry
  | [] => (m, [])
  | step :: earlier =>
    let (answer, m') := perform step (rehearse m earlier).1
    (m', (step.note? answer).toList.map (⟨m'.now, ·, true⟩) ++ (rehearse m earlier).2)

def Step.arming? : Step → Option Arming
  | .arm a => some a
  | .restart a => some a
  | _ => none

def Step.price (T : Nat) (step : Step) : Nat := 1 + step.arming?.elim 0 fun a => a.allowance (T + 1)

/-- How many times the runs may have to be resumed. -/
def turns (τ : Timer) (steps : List Step) : Nat :=
  3 * (steps.map (Step.price (duration τ steps))).sum

/-- All that the steps arm lets time pass. -/
def StepsPass (steps : List Step) : Prop := ∀ step ∈ steps, ∀ a, step.arming? = some a → a.Passes

namespace Follows
variable {n? : Option Note} {now T : Nat} {h h' : List Entry} {step : Step}
  {answer : Option Bool}

theorem length_le (hf : Follows n? now h h') : h.length ≤ h'.length := by
  cases n? with
  | none => exact Ensues.length_le hf
  | some note =>
    obtain rfl : h' = _ := hf
    exact Nat.le_succ _

theorem asked (hf : Follows n? now h h') :
    h'.filter (·.asked) = n?.toList.map (⟨now, ·, true⟩) ++ h.filter (·.asked) := by
  cases n? with
  | none => exact Ensues.asked hf
  | some note =>
    obtain rfl : h' = _ := hf
    rfl

theorem arming?_note? {n : Note} (hn : step.note? answer = some n) :
    n.arming? = step.arming? ∧ ∀ now, (Entry.event ⟨now, n, true⟩).run? = none := by
  cases step with
  | advance => cases hn
  | cancel | restart =>
    obtain rfl := Option.some.inj hn
    exact ⟨rfl, fun _ => rfl⟩
  | arm a =>
    obtain ⟨granted, -, rfl⟩ := Option.map_eq_some_iff.1 hn
    exact ⟨rfl, fun _ => rfl⟩

theorem passing (hf : Follows (step.note? answer) now h h') (hp : Passing h)
    (hs : ∀ a, step.arming? = some a → a.Passes) : Passing h' := by
  intro e he hasked
  have hmem : e ∈ h'.filter (·.asked) := List.mem_filter.2 ⟨he, hasked⟩
  rw [hf.asked] at hmem
  rcases List.mem_append.1 hmem with hnew | hold
  · obtain ⟨n, hn, rfl⟩ := List.mem_map.1 hnew
    rwa [(arming?_note? (Option.mem_toList.1 hn)).1]
  · exact hp e (List.mem_filter.1 hold).1 hasked

theorem length_add_outstanding_le (hf : Follows (step.note? answer) now h h') (ht : Timely τ h')
    (hT : ∀ e ∈ h', e.time ≤ T) (hp : Passing h') :
    h'.length + outstanding τ T h' ≤ step.price T + (h.length + outstanding τ T h) := by
  cases hn : step.note? answer with
  | none =>
    rw [hn] at hf
    have := Ensues.length_add_outstanding_le hf ht hT hp
    omega
  | some n =>
    rw [hn] at hf
    obtain rfl : h' = _ := hf
    obtain ⟨harming, hrun⟩ := arming?_note? hn
    have hasked := outstanding_asked_le (τ := τ) (T := T) (h := h) (hrun now)
    simp only [Entry.price, harming] at hasked
    simp only [Step.price, List.length_cons]
    omega

end Follows

theorem StepsPass.of_cons {step : Step} {earlier : List Step} (hp : StepsPass (step :: earlier)) :
    StepsPass earlier :=
  fun step' hmem => hp step' (List.mem_cons_of_mem _ hmem)

theorem stands_rehearse (τ : Timer) (lots : List Bool) (limit : Nat) (steps : List Step) :
    let m := (rehearse (opening τ lots limit) steps).1
    ∃ h, Stands τ limit 0 h m ∧ h.filter (·.asked) = (rehearse (opening τ lots limit) steps).2 ∧
      (3 * h.length < limit → m.now = duration τ steps ∧
        ∀ ms earlier, steps = .advance ms :: earlier → m.ready = []) ∧
      ∀ T, duration τ steps ≤ T → StepsPass steps → 3 * (steps.map (Step.price T)).sum < limit →
        Passing h ∧ h.length + outstanding τ T h ≤ (steps.map (Step.price T)).sum := by
  induction steps with
  | nil =>
    refine ⟨[], ⟨[], [], ?_, ⟨rfl, rfl, rfl, rfl, rfl, rfl⟩⟩, rfl, fun _ => ⟨rfl, nofun⟩,
      fun T _ _ _ => ⟨nofun, Nat.le_of_eq ?_⟩⟩
    · exact ⟨trivial, nofun, nofun, nofun, .nil, nofun, .nil, nofun, Nat.le_refl _⟩
    · simp [outstanding, events, runs, course]
  | cons step earlier ih =>
    obtain ⟨h, hs, hasked, hclock, hpaid⟩ := ih
    obtain ⟨h', hs', hfollows, hle, hclock'⟩ := hs.step step
    refine ⟨h', hs', hfollows.asked.trans (by rw [hasked]; rfl), fun hpatient => ?_, ?_⟩
    · obtain ⟨hnow, hdone⟩ := hclock' hpatient
      have hlength := hfollows.length_le
      obtain ⟨hbefore, -⟩ := hclock (by omega)
      rw [hbefore] at hnow
      exact ⟨hnow, fun ms _ hsteps => hdone ms (List.cons.inj hsteps).1⟩
    · intro T hT hpass hpatient
      rw [List.map_cons, List.sum_cons] at hpatient ⊢
      have hearlier : duration τ earlier ≤ T := Nat.le_trans (Nat.le_add_right _ _) hT
      obtain ⟨hpassing, hlength⟩ := hpaid T hearlier hpass.of_cons (by omega)
      -- the earlier steps have kept to the clock, so this one does not go beyond `T`
      obtain ⟨hbefore, -⟩ := hclock (by omega)
      rw [hbefore] at hle
      have hpassing' := hfollows.passing hpassing (hpass step List.mem_cons_self)
      obtain ⟨ready, asleep, p, -⟩ := hs'
      have := hfollows.length_add_outstanding_le p.timely
        (fun e he => Nat.le_trans (p.past e he) (Nat.le_trans hle hT)) hpassing'
      exact ⟨hpassing', by omega⟩

/-- Nothing that is due has failed to come. -/
theorem Stands.le_due {c : Course} (hs : Stands τ limit k h m) (hc : course τ g h = some c)
    (hup : c.phase = .working ∨ Live (events h) g) :
    m.now ≤ c.due ∧ (m.ready = [] → m.now < c.due) := by
  obtain ⟨ready, asleep, p, hm⟩ := hs
  have hroll : g ∈ roll [] ready asleep := by
    refine (p.all g c hc).resolve_right fun ⟨hwaiting, hcancelled⟩ => ?_
    rcases hup with hworking | ⟨-, hfree⟩
    · rw [hwaiting] at hworking
      cases hworking
    · exact hfree hcancelled
  have hlate (now : Nat) (cue : Cue) : now ≤ (cue.course τ now).due := by
    cases cue <;> simp [Cue.course, Course.due]
  simp only [roll, List.nil_append, List.mem_append, List.mem_map] at hroll
  rcases hroll with ⟨cue, hmem, rfl⟩ | ⟨x, hmem, rfl⟩
  · obtain rfl := Option.some.inj (hc.symm.trans (p.fits cue hmem))
    refine ⟨hlate _ _, fun hready => ?_⟩
    have hnone := List.map_eq_nil_iff.1 (hm.ready.symm.trans hready)
    exact absurd hmem (by simp [hnone])
  · obtain ⟨hlater, -, hx⟩ := p.fits_asleep x hmem
    obtain rfl := Option.some.inj (hc.symm.trans hx)
    have := hlate x.1 x.2
    exact ⟨by omega, fun _ => by omega⟩

/-- The rounds of a repeater keep to their times, whatever steps are taken, however long waits take
and whatever the lots say. What the machine shows comes of a history: the steps are in it, with
their times and answers, all of it is due, and nothing is overdue that a round under way or a live
run waits for. The clock is where the steps have put it if the machine has patience enough: for the
history, or, where all that is armed lets time pass, for what can be told from the steps alone. A
round begins when the delay is over since its run was started, or the period since the round before,
and exactly then if the clock can tell that time. Of a run that has ended none begins any more, nor
of one that has been cancelled, and while the delay of a restart lasts none begins at all except of
a later arming; but whether one does whose wait is over at the very instant at which the
cancellation can first be noticed, is left open. -/
theorem rounds_keep_time (τ : Timer) (lots : List Bool) (patience : Nat) (steps : List Step) :
    let m := (rehearse (opening τ lots patience) steps).1
    ∃ h : List Entry,
      m.state.repeater = replay (events h) ∧ m.state.log = log h ∧
      h.filter (·.asked) = (rehearse (opening τ lots patience) steps).2 ∧
      Timely τ h ∧ (∀ e ∈ h, e.time ≤ m.now) ∧
      (∀ g c, course τ g h = some c → c.phase = .working ∨ Live (events h) g → m.now ≤ c.due) ∧
      (3 * h.length < patience ∨ StepsPass steps ∧ turns τ steps < patience →
        m.now = duration τ steps ∧
        ∀ ms earlier, steps = .advance ms :: earlier → ∀ g c, course τ g h = some c →
          c.phase = .working ∨ Live (events h) g → m.now < c.due) ∧
      ∀ later x past g a, h = later ++ x :: past → x.note = .begins g a →
        (∃ mid s earlier ms, past = mid ++ s :: earlier ∧ Quiet g (events mid) ∧
          s.Schedules earlier g a ms ∧ x.time = s.time + τ.lasting s.time ms ∧
          (s.time + ms ≤ τ.last → x.time = s.time + ms)) ∧
        ∀ mid e earlier, past = mid ++ e :: earlier →
          (e.event.cancelsRuns = true → runs (events earlier) < g ∨ Contested τ past g x.time) ∧
          (∀ b, e.note ≠ .ends g b false) ∧
          ∀ b, e.note = .restarts b → x.time < e.time + τ.lasting e.time b.delay →
            runs (events earlier) + 1 < g ∨ Contested τ past g x.time := by
  obtain ⟨h, hs, hasked, hclock, hpaid⟩ := stands_rehearse τ lots patience steps
  have ⟨ready, asleep, p, hm⟩ := hs
  refine ⟨h, hm.repeater, hm.log, hasked, p.timely, p.past, fun g c hc hup => (hs.le_due hc hup).1,
    ?_, ?_⟩
  · intro hpatient
    have hlong : 3 * h.length < patience := by
      refine hpatient.elim id fun ⟨hpass, hturns⟩ => ?_
      obtain ⟨-, hlength⟩ := hpaid _ (Nat.le_refl _) hpass hturns
      simp only [turns] at hturns
      omega
    obtain ⟨hnow, hdone⟩ := hclock hlong
    exact ⟨hnow, fun ms earlier hsteps g c hc hup => (hs.le_due hc hup).2 (hdone ms earlier hsteps)⟩
  · rintro later x past g a rfl hbegins
    have hx := p.timely.due
    refine ⟨begins_since hx hbegins, ?_⟩
    rintro mid e earlier rfl
    have ht := p.timely.of_append.1
    exact ⟨runs_lt_of_begins hx hbegins, fun b => not_ended_of_begins ht hx hbegins,
      fun b => runs_lt_of_begins_early ht hx hbegins⟩

/-- An arming for `2 ^ 63` seconds, and one for no time. -/
def late : Arming :=
  { id := "late", delay := 9223372036854775808000, period := 1, stopAfter := 0 }

def prompt : Arming := { id := "prompt", delay := 0, period := 1, stopAfter := 0 }

/-- No clock that counts seconds below `2 ^ 63` can tell when the wait of the one is over, and its
first round begins after thirty years. The other is cancelled before its first wait, and if the lot
says so a round begins for all that. -/
theorem rounds_out_of_time :
    let early := (rehearse (opening .standard [] 10) [.advance 946080000000, .arm late]).1
    let cancelled := (rehearse (opening .standard [true] 10) [.cancel, .arm prompt]).1
    let after := (rehearse (opening .standard [true] 10) [.advance 1, .cancel, .arm prompt]).1
    early.now < late.delay ∧ early.state.log = [("late", [946080000000])] ∧
    cancelled.state.repeater.armed = false ∧ cancelled.state.log = [] ∧
    after.state.repeater.armed = false ∧ after.state.log = [("prompt", [0])] := by
  decide +kernel

/-- A restart in the middle of a wait puts the first round off. -/
example :
    let ping : Arming := { id := "ping", delay := 10, period := 20, length := 5, stopAfter := 0 }
    (rehearse (opening .standard [] 50)
      [.advance 40, .restart ping, .advance 6, .arm ping]).1.state.log = [("ping", [16, 41])] := by
  decide +kernel

end
end Rehearsal
end Failover
