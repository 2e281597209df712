import Failover.Proofs.Rehearsal.DueTimes

/-!
What the machine of a rehearsal still has to do: a cast of cues, one for each run that may still do
anything. A cue comes up at the very instant for which the history has its run wait. To resume a run
the machine takes it in hand, writes into the history what is due, and leaves the run with another
cue or with none.
-/
namespace Failover.Rehearsal
open Repeater

def conclude (r : Round) (goesOn : Bool) : Routine Stage Unit Round (Option Round) := do
  if goesOn then
    return some { r with wait := r.arming.period }
  else
    Routine.change fun _ s => { s with repeater := s.repeater.finish r.generation }
    return none

def afterWait (r : Round) : Routine Stage Unit Round (Option Round) := do
  if ← admits Stage.repeater drawLot r.generation r.wait then
    conclude r (← work r.arming)
  else
    return none

def verdict (a : Arming) (n : Nat) : Routine Stage Unit Round Bool := do
  if n = a.stopAfter then
    a.successor.forM restart
    return false
  else
    return true

def afterWork (r : Round) (n : Nat) : Routine Stage Unit Round (Option Round) := do
  conclude r (← verdict r.arming n)

/-- How far a round has come. -/
inductive Cue where
  | fresh (r : Round)
  | poised (r : Round) (since : Nat) (waited : r.wait ≠ 0)
  | busy (r : Round) (n : Nat)

namespace Cue

def run : Cue → Nat
  | fresh r | poised r _ _ | busy r _ => r.generation

def task : Cue → Task Stage Unit Round
  | fresh r => body r
  | poised r _ _ => afterWait r
  | busy r n => afterWork r n

/-- What a run is about if this is how far it has come. -/
def course (τ : Timer) (now : Nat) : Cue → Course
  | fresh r => .waits r.arming now (now + τ.lasting now r.wait)
  | poised r since _ => .waits r.arming since now
  | busy r n => .works r.arming n now

/-- How many turns a run that can go on may take before the history goes on. -/
def load : Cue → Nat
  | fresh _ => 3
  | _ => 1

def loads : List Cue → Nat
  | [] => 0
  | c :: cs => c.load + loads cs

theorem loads_append (cs cs' : List Cue) : loads (cs ++ cs') = loads cs + loads cs' := by
  induction cs with
  | nil => simp [loads]
  | cons c cs ih => simp [loads, ih, Nat.add_assoc]

theorem loads_eq_length {cs : List Cue} (h : ∀ c ∈ cs, c.load = 1) : loads cs = cs.length := by
  induction cs with
  | nil => rfl
  | cons c cs ih =>
    obtain ⟨hc, hcs⟩ := List.forall_mem_cons.1 h
    rw [loads, hc, ih hcs, List.length_cons, Nat.add_comm]

end Cue

def roll (hand : List Nat) (ready : List Cue) (asleep : List (Nat × Cue)) : List Nat :=
  hand ++ (ready.map Cue.run ++ asleep.map fun x => x.2.run)

/-- How many turns may be taken before the history must go on. -/
def load (ready : List Cue) (asleep : List (Nat × Cue)) : Nat :=
  Cue.loads ready + 2 * asleep.length

/-- Every run that is not in hand and may still do anything has one cue, for the instant for which
the history has it wait; only a run that was cancelled may wait without one. The history is long
enough for `k` turns to have been taken. -/
structure Staged (τ : Timer) (k : Nat) (h : List Entry) (now : Nat) (hand : List Nat)
    (ready : List Cue) (asleep : List (Nat × Cue)) : Prop where
  timely : Timely τ h
  past : ∀ e ∈ h, e.time ≤ now
  fits : ∀ c ∈ ready, course τ c.run h = some (c.course τ now)
  fits_asleep : ∀ x ∈ asleep,
    now < x.1 ∧ x.2.load = 1 ∧ course τ x.2.run h = some (x.2.course τ x.1)
  sorted : asleep.Pairwise fun x y => x.1 ≤ y.1
  known : ∀ g ∈ roll hand ready asleep, g ≤ runs (events h)
  once : (roll hand ready asleep).Nodup
  all : ∀ g c, course τ g h = some c →
    g ∈ roll hand ready asleep ∨ c.phase = .waiting ∧ Cancelled (events h) g
  turns : k + load ready asleep ≤ 3 * h.length

namespace Staged
variable {τ : Timer} {k k' now due g : Nat} {h : List Entry} {e : Entry} {hand hand' : List Nat}
  {ready ready' : List Cue} {asleep asleep' before after : List (Nat × Cue)} {c : Cue} {r : Round}

theorem weaken (p : Staged τ k h now hand ready asleep) (hk : k' ≤ k) :
    Staged τ k' h now hand ready asleep :=
  { p with turns := by have := p.turns; omega }

theorem recast (p : Staged τ k h now hand ready asleep)
    (hroll : (roll hand' ready' asleep').Perm (roll hand ready asleep))
    (fits : ∀ c ∈ ready', course τ c.run h = some (c.course τ now))
    (fits_asleep : ∀ x ∈ asleep',
      now < x.1 ∧ x.2.load = 1 ∧ course τ x.2.run h = some (x.2.course τ x.1))
    (sorted : asleep'.Pairwise fun x y => x.1 ≤ y.1)
    (hload : k' + load ready' asleep' ≤ k + load ready asleep) :
    Staged τ k' h now hand' ready' asleep' where
  timely := p.timely
  past := p.past
  fits := fits
  fits_asleep := fits_asleep
  sorted := sorted
  known := fun g hg => p.known g (hroll.mem_iff.1 hg)
  once := hroll.nodup_iff.2 p.once
  all := fun g c hg => (p.all g c hg).imp_left hroll.mem_iff.2
  turns := Nat.le_trans hload p.turns

theorem take (p : Staged τ k h now hand (c :: ready) asleep) :
    Staged τ (k + c.load) h now (c.run :: hand) ready asleep ∧
      course τ c.run h = some (c.course τ now) := by
  obtain ⟨hc, hready⟩ := List.forall_mem_cons.1 p.fits
  refine ⟨p.recast List.perm_middle.symm hready p.fits_asleep p.sorted ?_, hc⟩
  simp only [load, Cue.loads]
  omega

theorem put (p : Staged τ (k + c.load) h now (g :: hand) (ready ++ ready') asleep) (hg : c.run = g)
    (hc : course τ g h = some (c.course τ now)) :
    Staged τ k h now hand (ready ++ c :: ready') asleep := by
  subst hg
  have hroll : (roll hand (ready ++ c :: ready') asleep).Perm
      (roll (c.run :: hand) (ready ++ ready') asleep) := by
    simp only [roll, List.map_append, List.map_cons, List.append_assoc, List.cons_append]
    rw [← List.append_assoc hand, ← List.append_assoc hand]
    exact List.perm_middle
  have hfits : ∀ c' ∈ ready ++ c :: ready', course τ c'.run h = some (c'.course τ now) := by
    simpa [hc, or_imp, forall_and] using p.fits
  refine p.recast hroll hfits p.fits_asleep p.sorted ?_
  simp only [load, Cue.loads_append, Cue.loads]
  omega

theorem rest (p : Staged τ (k + 2) h now (g :: hand) ready (before ++ after)) (hg : c.run = g)
    (hc : course τ g h = some (c.course τ due)) (hload : c.load = 1) (hdue : now < due)
    (hbefore : ∀ x ∈ before, x.1 ≤ due) (hafter : ∀ x ∈ after, due ≤ x.1) :
    Staged τ k h now hand ready (before ++ (due, c) :: after) := by
  subst hg
  have hroll : (roll hand ready (before ++ (due, c) :: after)).Perm
      (roll (c.run :: hand) ready (before ++ after)) := by
    simp only [roll, List.map_append, List.map_cons, List.cons_append, ← List.append_assoc]
    exact List.perm_middle
  obtain ⟨hs₁, hs₂, hs₃⟩ := List.pairwise_append.1 p.sorted
  obtain ⟨hf₁, hf₂⟩ := List.forall_mem_append.1 p.fits_asleep
  have hsorted : (before ++ (due, c) :: after).Pairwise fun x y => x.1 ≤ y.1 := by
    refine List.pairwise_append.2 ⟨hs₁, List.pairwise_cons.2 ⟨hafter, hs₂⟩, fun x hx => ?_⟩
    exact List.forall_mem_cons.2 ⟨hbefore x hx, hs₃ x hx⟩
  refine p.recast hroll p.fits (List.forall_mem_append.2 ⟨hf₁, ?_⟩) hsorted ?_
  · exact List.forall_mem_cons.2 ⟨⟨hdue, hload, hc⟩, hf₂⟩
  · simp only [load, List.length_append, List.length_cons]
    omega

theorem drop (p : Staged τ k h now (g :: hand) ready asleep)
    (hg : ∀ c, course τ g h = some c → c.phase = .waiting ∧ Cancelled (events h) g) :
    Staged τ k h now hand ready asleep := by
  refine { p with
    known := fun g' hg' => p.known g' (List.mem_cons_of_mem g hg')
    once := (List.nodup_cons.1 p.once).2
    all := fun g' c hc => ?_ }
  rcases p.all g' c hc with hmem | hover
  · rcases List.mem_cons.1 hmem with rfl | hmem
    · exact .inr (hg c hc)
    · exact .inl hmem
  · exact .inr hover

def born (e : Entry) (h : List Entry) : List Nat :=
  if e.event.startsRun then [runs (events h) + 1] else []

theorem mem_born : g ∈ born e h ↔ e.event.startsRun = true ∧ g = runs (events h) + 1 := by
  unfold born
  split <;> simp_all

theorem le_runs_of_mem_born (hg : g ∈ born e h) : g ≤ runs (events (e :: h)) := by
  obtain ⟨hstarts, rfl⟩ := mem_born.1 hg
  simp [runs_cons, hstarts]

theorem fits_cons (p : Staged τ k h now hand ready asleep)
    (hrun : ∀ g, e.event.run? = some g → g ∈ hand) (hg : g ∈ roll [] ready asleep)
    {c : Course} (hc : course τ g h = some c) : course τ g (e :: h) = some c := by
  have hout : g ∉ hand := fun hhand => (List.nodup_append.1 p.once).2.2 g hhand g hg rfl
  have hle := p.known g (List.mem_append_right hand hg)
  rw [course_cons (fun hr => hout (hrun g hr)) (by omega), hc]

/-- Writes into the history what is due, and takes a run that this starts in hand. -/
theorem write (p : Staged τ k h now hand ready asleep) (hdue : e.Due τ h) (hnow : e.time = now)
    (hrun : ∀ g, e.event.run? = some g → g ∈ hand) :
    Staged τ (k + 3) (e :: h) now (born e h ++ hand) ready asleep := by
  have hroll : roll (born e h ++ hand) ready asleep = born e h ++ roll hand ready asleep :=
    List.append_assoc ..
  refine {
    timely := ⟨p.timely, hdue, hnow ▸ p.past⟩
    past := List.forall_mem_cons.2 ⟨Nat.le_of_eq hnow, p.past⟩
    fits := fun c hc => ?_
    fits_asleep := fun x hx => ?_
    sorted := p.sorted
    known := ?_
    once := ?_
    all := fun g c hc => ?_
    turns := ?_ }
  · have hmem : c.run ∈ roll [] ready asleep :=
      List.mem_append_right _ (List.mem_append_left _ (List.mem_map_of_mem hc))
    exact p.fits_cons hrun hmem (p.fits c hc)
  · have hmem : x.2.run ∈ roll [] ready asleep :=
      List.mem_append_right _ (List.mem_append_right _ (List.mem_map_of_mem hx))
    obtain ⟨hlater, hload, hx⟩ := p.fits_asleep x hx
    exact ⟨hlater, hload, p.fits_cons hrun hmem hx⟩
  · rw [hroll]
    refine List.forall_mem_append.2 ⟨fun g => le_runs_of_mem_born, fun g hg => ?_⟩
    exact Nat.le_trans (p.known g hg) (runs_append [e.event] (events h))
  · have hborn : (born e h).Nodup := by unfold born; split <;> simp
    rw [hroll]
    refine List.nodup_append.2 ⟨hborn, p.once, fun g hg g' hg' heq => ?_⟩
    have hnew := (mem_born.1 hg).2
    have hold := p.known g' hg'
    omega
  · rw [hroll, List.mem_append]
    by_cases hnew : g ∈ born e h
    · exact .inl (.inl hnew)
    · by_cases hhand : g ∈ hand
      · exact .inl (.inr (List.mem_append_left _ hhand))
      · rw [course_cons (fun hr => hhand (hrun g hr)) (fun hs => hnew (mem_born.2 hs))] at hc
        refine (p.all g c hc).imp .inr fun ⟨hwaiting, hcancelled⟩ => ⟨hwaiting, ?_⟩
        exact (cancelled_cons _ _ _).2 (.inr hcancelled)
  · have := p.turns
    simp only [List.length_cons]
    omega

theorem start {a : Arming} (p : Staged τ k h now hand ready asleep) (hdue : e.Due τ h)
    (hnow : e.time = now) (he : e.note = .restarts a ∨ e.note = .arms a true) :
    Staged τ k (e :: h) now hand (ready ++ [.fresh ⟨a, runs (events h) + 1, a.delay⟩]) asleep := by
  have hborn : born e h = [runs (events h) + 1] := by
    rcases he with he | he <;> simp [born, he, Entry.event, Event.startsRun]
  have hcourse : course τ (runs (events h) + 1) (e :: h) =
      some (.waits a now (now + τ.lasting now a.delay)) := by
    rcases he with he | he <;> simp [course, he, hnow]
  have hquiet : ∀ g, e.event.run? = some g → g ∈ hand := by
    rcases he with he | he <;> simp [he, Entry.event, Event.run?]
  have hwritten := p.write hdue hnow hquiet
  rw [hborn, ← List.append_nil ready] at hwritten
  exact hwritten.put (c := .fresh ⟨a, _, a.delay⟩) rfl hcourse

theorem begin {a : Arming} {since : Nat} (p : Staged τ k h now (g :: hand) ready asleep)
    (hc : course τ g h = some (.waits a since now))
    (hbegins : Live (events h) g ∨ Contested τ h g now) :
    Staged τ (k + 3) ({ time := now, note := .begins g a } :: h) now (g :: hand) ready asleep :=
  p.write (e := { time := now, note := .begins g a }) ⟨⟨since, hc⟩, hbegins⟩ rfl
    (by simp [Entry.event, Event.run?])

theorem goOn {n : Nat} (p : Staged τ k h now (r.generation :: hand) ready asleep)
    (hc : course τ r.generation h = some (.works r.arming n now)) (hn : n ≠ r.arming.stopAfter) :
    Staged τ k ({ time := now, note := .ends r.generation r.arming true } :: h) now hand
      (.fresh { r with wait := r.arming.period } :: ready) asleep := by
  let e : Entry := { time := now, note := .ends r.generation r.arming true }
  have hwritten : Staged τ (k + 3) (e :: h) now (r.generation :: hand) ([] ++ ready) asleep :=
    p.write ⟨n, hc, by simp [hn]⟩ rfl (by simp [e, Entry.event, Event.run?])
  exact hwritten.put (c := .fresh { r with wait := r.arming.period }) rfl
    (by simp [course, e, Cue.course])

theorem finish {a : Arming} {n : Nat} (p : Staged τ k h now (g :: hand) ready asleep)
    (hc : course τ g h = some (.works a n now)) (hn : n = a.stopAfter) :
    Staged τ k ({ time := now, note := .ends g a false } :: h) now hand ready asleep := by
  let e : Entry := { time := now, note := .ends g a false }
  have hwritten : Staged τ (k + 3) (e :: h) now (g :: hand) ready asleep :=
    p.write ⟨n, hc, by simp [hn]⟩ rfl (by simp [e, Entry.event, Event.run?])
  exact (hwritten.drop (by simp [course, e])).weaken (Nat.le_add_right k 3)

theorem wake {t : Nat} (p : Staged τ k h now [] [] (before ++ after)) (hnow : now ≤ t)
    (hbefore : ∀ x ∈ before, x.1 = t) (hafter : ∀ x ∈ after, t < x.1) :
    Staged τ (k + before.length) h t [] (before.map (·.2)) after := by
  obtain ⟨hf₁, hf₂⟩ := List.forall_mem_append.1 p.fits_asleep
  have hroll : roll [] (before.map (·.2)) after = roll [] [] (before ++ after) := by
    simp [roll, Function.comp_def]
  have hload : Cue.loads (before.map (·.2)) = before.length := by
    rw [Cue.loads_eq_length (List.forall_mem_map.2 fun x hx => (hf₁ x hx).2.1), List.length_map]
  refine {
    timely := p.timely
    past := fun e he => Nat.le_trans (p.past e he) hnow
    fits := List.forall_mem_map.2 fun x hx => hbefore x hx ▸ (hf₁ x hx).2.2
    fits_asleep := fun x hx => ⟨hafter x hx, (hf₂ x hx).2⟩
    sorted := (List.pairwise_append.1 p.sorted).2.1
    known := hroll ▸ p.known
    once := hroll ▸ p.once
    all := hroll ▸ p.all
    turns := ?_ }
  have := p.turns
  simp only [load, Cue.loads, List.length_append] at this
  rw [load, hload]
  omega

end Staged
end Failover.Rehearsal
