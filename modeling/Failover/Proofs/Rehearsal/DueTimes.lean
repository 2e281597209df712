import Failover.Proofs.Repeater.Runs

/-!
When the rounds of a rehearsal begin and end. A history of a rehearsal, the latest entry first, says
what became of its repeater, and when. From the history alone one can tell what each run is about:
which arming it carries out, whether it waits or works, and when it will be done with that.
-/
namespace Failover
namespace Rehearsal
open Repeater

/-- What becomes of the repeater, and which arming that concerns. -/
inductive Note where
  | arms (a : Arming) (granted : Bool)
  | restarts (a : Arming)
  | cancels
  | begins (g : Nat) (a : Arming)
  | ends (g : Nat) (a : Arming) (goesOn : Bool)

structure Entry where
  time : Nat
  note : Note
  /-- A step of the rehearsal asked for it, and not a round. -/
  asked : Bool := false

def Entry.event (e : Entry) : Event :=
  match e.note with
  | .arms _ granted => .arms granted
  | .restarts _ => .restarts e.time
  | .cancels => .cancels e.time
  | .begins g _ => .begins g
  | .ends g _ goesOn => .ends g goesOn

def events (h : List Entry) : List Event := h.map Entry.event

def log : List Entry → List (String × List Nat)
  | [] => []
  | e :: h =>
    match e.note with
    | .begins _ a => note a.id e.time (log h)
    | _ => log h

/-- What a run is about, and until when. -/
inductive Course where
  | waits (a : Arming) (since due : Nat)
  /-- The round with this number is under way. -/
  | works (a : Arming) (n due : Nat)

def Course.due : Course → Nat
  | .waits _ _ due => due
  | .works _ _ due => due

def Course.phase : Course → Phase
  | .waits .. => .waiting
  | .works .. => .working

/-- A run first waits for the delay of its arming, and after each round for the period. A round
takes as long as the arming has it take. -/
def course (τ : Timer) (g : Nat) : List Entry → Option Course
  | [] => none
  | e :: h =>
    match e.note with
    | .arms a granted =>
      if granted ∧ g = runs (events h) + 1 then
        some (.waits a e.time (e.time + τ.lasting e.time a.delay))
      else course τ g h
    | .restarts a =>
      if g = runs (events h) + 1 then some (.waits a e.time (e.time + τ.lasting e.time a.delay))
      else course τ g h
    | .cancels => course τ g h
    | .begins g' a =>
      if g' = g then
        let n := count a.id (log (e :: h))
        some (.works a n (e.time + τ.lasting e.time (a.lengthOf n)))
      else course τ g h
    | .ends g' a goesOn =>
      if g' = g then
        if goesOn then some (.waits a e.time (e.time + τ.lasting e.time a.period)) else none
      else course τ g h

/-- The run has been cancelled, and at the first instant at which it can notice that its wait is
over: it was cancelled at this very time, or had nothing to wait for. -/
def Contested (τ : Timer) (past : List Entry) (g time : Nat) : Prop :=
  Cancelled (events past) g ∧
    (CancelledAt (events past) g time ∨ ∃ a, course τ g past = some (.waits a time time))

/-- The entry is what must follow upon the past, and comes neither early nor late. A round begins
when its run is done with waiting, if that is live even at that instant, and may begin if that is
contested; it ends when its time is over, and its run with it if it was the last; if so it may have
armed the repeater anew, and what else is done to the repeater has been asked for. -/
def Entry.Due (τ : Timer) (e : Entry) (past : List Entry) : Prop :=
  match e.note with
  | .arms _ granted => e.asked = true ∧ (granted = true ↔ ¬∃ g, Live (events past) g)
  | .restarts b => e.asked = true ∨
      ∃ g a n, course τ g past = some (.works a n e.time) ∧ n = a.stopAfter ∧ a.successor = some b
  | .cancels => e.asked = true
  | .begins g a => (∃ since, course τ g past = some (.waits a since e.time)) ∧
      (Live (events past) g ∨ Contested τ past g e.time)
  | .ends g a goesOn =>
      ∃ n, course τ g past = some (.works a n e.time) ∧ goesOn = decide (n ≠ a.stopAfter)

/-- From this entry on the run waits so many milliseconds for a round. -/
def Entry.Schedules (s : Entry) (earlier : List Entry) (g : Nat) (a : Arming) (ms : Nat) : Prop :=
  (s.note = .arms a true ∨ s.note = .restarts a) ∧ g = runs (events earlier) + 1 ∧ ms = a.delay ∨
    s.note = .ends g a true ∧ ms = a.period

/-- Every entry is due, and time does not go back. -/
def Timely (τ : Timer) : List Entry → Prop
  | [] => True
  | e :: h => Timely τ h ∧ e.Due τ h ∧ ∀ x ∈ h, x.time ≤ e.time

section
variable {τ : Timer} {g : Nat} {e x : Entry} {h later earlier : List Entry}

@[simp] theorem events_cons : events (e :: h) = e.event :: events h := rfl

@[simp] theorem events_append : events (later ++ h) = events later ++ events h :=
  List.map_append

theorem phase_events (τ : Timer) (g : Nat) (h : List Entry) :
    phase g (events h) = (course τ g h).map Course.phase := by
  induction h with
  | nil => rfl
  | cons e h ih =>
    obtain ⟨time, note, asked⟩ := e
    simp only [events_cons, phase, course]
    cases note with
    | cancels => simpa [Entry.event, Event.startsRun] using ih
    | _ =>
      simp only [Entry.event, Event.startsRun, ih, true_and, Bool.false_eq_true, false_and, if_false]
      grind [Course.phase]

theorem Timely.lawful (ht : Timely τ h) : Lawful (events h) := by
  induction h with
  | nil => trivial
  | cons e h ih =>
    obtain ⟨hh, he, -⟩ := ht
    have hlawful := ih hh
    refine ⟨hlawful, ?_⟩
    obtain ⟨time, note, asked⟩ := e
    cases note with
    | arms a granted =>
      obtain ⟨-, hgranted⟩ := he
      rwa [← isSome_arm?_replay hlawful, ← Bool.eq_iff_iff] at hgranted
    | restarts | cancels => trivial
    | begins g a =>
      obtain ⟨⟨since, hwaits⟩, -⟩ := he
      exact (phase_events τ g h).trans (by simp [hwaits, Course.phase])
    | ends g a goesOn =>
      obtain ⟨n, hworks, -⟩ := he
      exact (phase_events τ g h).trans (by simp [hworks, Course.phase])

theorem Timely.of_append (ht : Timely τ (later ++ h)) : Timely τ h := by
  induction later with
  | nil => exact ht
  | cons e later ih => exact ih ht.1

theorem Timely.due (ht : Timely τ (later ++ e :: h)) : e.Due τ h := ht.of_append.2.1

theorem course_cons (hrun : e.event.run? ≠ some g)
    (hstart : ¬(e.event.startsRun = true ∧ g = runs (events h) + 1)) :
    course τ g (e :: h) = course τ g h := by
  obtain ⟨time, note, asked⟩ := e
  cases note <;> simp_all [course, Entry.event, Event.run?, Event.startsRun]

theorem le_runs_of_course (ht : Timely τ h) {c : Course} (hc : course τ g h = some c) :
    g ≤ runs (events h) :=
  le_runs_of_phase ht.lawful (by simp [phase_events τ, hc])

theorem waits_since {a : Arming} {since due : Nat}
    (hc : course τ g h = some (.waits a since due)) :
    ∃ later s earlier ms, h = later ++ s :: earlier ∧ Quiet g (events later) ∧
      s.Schedules earlier g a ms ∧ since = s.time ∧ due = s.time + τ.lasting s.time ms := by
  induction h with
  | nil => cases hc
  | cons e h ih =>
    by_cases hnow : ∃ ms, e.Schedules h g a ms ∧ since = e.time ∧ due = e.time + τ.lasting e.time ms
    · obtain ⟨ms, hnow⟩ := hnow
      exact ⟨[], e, h, ms, rfl, nofun, hnow⟩
    · have hbefore : e.event.run? ≠ some g ∧ course τ g h = some (.waits a since due) := by
        obtain ⟨time, note, asked⟩ := e
        cases note <;> simp only [course, Entry.Schedules, Entry.event, Event.run?] at hc hnow ⊢ <;>
          grind
      obtain ⟨hquiet, hc⟩ := hbefore
      obtain ⟨later, s, earlier, ms, rfl, hq, hs⟩ := ih hc
      exact ⟨e :: later, s, earlier, ms, rfl, List.forall_mem_cons.2 ⟨hquiet, hq⟩, hs⟩

/-- No run gets done with what it is about before the time at which that is due. -/
theorem due_le_of_course {t : Nat} (ht : Timely τ (later ++ h)) (hg : g ≤ runs (events h))
    (hdue : ∀ c, course τ g h = some c → t ≤ c.due) :
    ∀ c, course τ g (later ++ h) = some c → t ≤ c.due := by
  induction later with
  | nil => exact hdue
  | cons e later ih =>
    obtain ⟨hh, he, -⟩ := ht
    have hcourse := ih hh
    by_cases hrun : e.event.run? = some g
    · -- the run is done with what it was about, and goes on from there
      obtain ⟨time, note, asked⟩ := e
      cases note with
      | arms | restarts | cancels => simp [Entry.event, Event.run?] at hrun
      | begins g' a =>
        obtain rfl : g' = g := by simpa [Entry.event, Event.run?] using hrun
        obtain ⟨⟨since, hwaits⟩, -⟩ := he
        have hlate : t ≤ time := hcourse _ hwaits
        simp only [List.cons_append, course, if_pos, Option.some.injEq, forall_eq', Course.due]
        omega
      | ends g' a goesOn =>
        obtain rfl : g' = g := by simpa [Entry.event, Event.run?] using hrun
        obtain ⟨n, hworks, -⟩ := he
        have hlate : t ≤ time := hcourse _ hworks
        cases goesOn <;> simp [course, Course.due]
        omega
    · have hold : g ≤ runs (events (later ++ h)) := by
        rw [events_append]
        exact Nat.le_trans hg (runs_append _ _)
      rwa [List.cons_append, course_cons hrun (by omega)]

section
variable {b : Arming} {past : List Entry}

/-- A round begins a delay after its run was started, or a period after the round before. -/
theorem begins_since (hx : x.Due τ past) (hbegins : x.note = .begins g b) :
    ∃ later s earlier ms, past = later ++ s :: earlier ∧ Quiet g (events later) ∧
      s.Schedules earlier g b ms ∧ x.time = s.time + τ.lasting s.time ms ∧
      (s.time + ms ≤ τ.last → x.time = s.time + ms) := by
  rw [Entry.Due, hbegins] at hx
  obtain ⟨⟨since, hwaits⟩, -⟩ := hx
  obtain ⟨later, s, earlier, ms, rfl, hq, hs, -, hdue⟩ := waits_since hwaits
  exact ⟨later, s, earlier, ms, rfl, hq, hs, hdue, fun hle => by rw [hdue, τ.lasting_of_le _ _ hle]⟩

theorem runs_lt_of_begins (hx : x.Due τ (later ++ e :: earlier)) (hbegins : x.note = .begins g b)
    (he : e.event.cancelsRuns = true) :
    runs (events earlier) < g ∨ Contested τ (later ++ e :: earlier) g x.time := by
  rw [Entry.Due, hbegins] at hx
  obtain ⟨-, ⟨-, hfree⟩ | hcontested⟩ := hx
  · exact .inl <| Nat.lt_of_not_le fun hle =>
      hfree ⟨events later, _, events earlier, by simp, he, hle⟩
  · exact .inr hcontested

theorem le_of_begins {t : Nat} (ht : Timely τ (later ++ h)) (hx : x.Due τ (later ++ h))
    (hbegins : x.note = .begins g b) (hg : g ≤ runs (events h))
    (hdue : ∀ c, course τ g h = some c → t ≤ c.due) : t ≤ x.time := by
  rw [Entry.Due, hbegins] at hx
  obtain ⟨⟨since, hwaits⟩, -⟩ := hx
  exact due_le_of_course ht hg hdue _ hwaits

theorem not_ended_of_begins {a : Arming} (ht : Timely τ (later ++ e :: h))
    (hx : x.Due τ (later ++ e :: h)) (hbegins : x.note = .begins g b) :
    e.note ≠ .ends g a false := by
  intro hends
  have hdue := ht.due
  rw [Entry.Due, hends] at hdue
  obtain ⟨n, hworks, -⟩ := hdue
  have hg : g ≤ runs (events (e :: h)) :=
    Nat.le_trans (le_runs_of_course ht.of_append.1 hworks) (runs_append [e.event] _)
  have hlate := le_of_begins (t := x.time + 1) ht hx hbegins hg (by simp [course, hends])
  omega

theorem runs_lt_of_begins_early {a : Arming} (ht : Timely τ (later ++ e :: earlier))
    (hx : x.Due τ (later ++ e :: earlier)) (hbegins : x.note = .begins g b)
    (he : e.note = .restarts a) (hearly : x.time < e.time + τ.lasting e.time a.delay) :
    runs (events earlier) + 1 < g ∨ Contested τ (later ++ e :: earlier) g x.time := by
  refine (runs_lt_of_begins hx hbegins ?_).imp_left fun hlt => ?_
  · simp [he, Entry.event, Event.cancelsRuns, Event.cancelsAt?]
  suffices g ≠ runs (events earlier) + 1 by omega
  rintro rfl
  have hruns : runs (events (e :: earlier)) = runs (events earlier) + 1 := by
    simp [runs_cons, he, Entry.event, Event.startsRun]
  have hdue : ∀ c, course τ (runs (events earlier) + 1) (e :: earlier) = some c →
      e.time + τ.lasting e.time a.delay ≤ c.due := by
    simp [course, he, Course.due]
  have hlate := le_of_begins ht hx hbegins (Nat.le_of_eq hruns.symm) hdue
  omega

end
end
end Rehearsal
end Failover
