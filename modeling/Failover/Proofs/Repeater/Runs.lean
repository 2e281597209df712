import Failover.Proofs.Routine.Plays
import Failover.Rehearsal

/-!
The runs of a repeater. Each arming starts a run of rounds, and a run may outlive its arming: a
round that is under way when the repeater is cancelled or armed anew is still finished. Which runs
there are, and which of them have been cancelled, is read here off the history of the repeater, the
latest event first; the repeater itself only knows the number of its latest arming and whether that
is live.
-/
namespace Failover
namespace Repeater

inductive Event where
  /-- Someone asked for an arming, and got one or not. -/
  | arms (granted : Bool)
  | restarts (time : Nat)
  | cancels (time : Nat)
  /-- A round of the run with this number begins. -/
  | begins (g : Nat)
  /-- It ends, and the run goes on or not. -/
  | ends (g : Nat) (goesOn : Bool)
  deriving DecidableEq

def Event.startsRun : Event → Bool
  | .arms granted => granted
  | .restarts _ => true
  | _ => false

def Event.cancelsAt? : Event → Option Nat
  | .restarts time => some time
  | .cancels time => some time
  | _ => none

def Event.cancelsRuns (e : Event) : Bool := e.cancelsAt?.isSome

def Event.run? : Event → Option Nat
  | .begins g => some g
  | .ends g _ => some g
  | _ => none

def after (r : Repeater) : Event → Repeater
  | .arms _ => r.arm?.getD r
  | .restarts time => r.restart time
  | .cancels time => r.cancel time
  | .begins _ => r
  | .ends g goesOn => if goesOn then r else r.finish g

/-- The repeater that a history leaves. -/
def replay : List Event → Repeater
  | [] => {}
  | e :: h => (replay h).after e

def runs (h : List Event) : Nat := h.countP Event.startsRun

inductive Phase where
  | waiting
  | working
  deriving DecidableEq

/-- What a run is about, until it ends. -/
def phase (g : Nat) : List Event → Option Phase
  | [] => none
  | e :: h =>
    if e.startsRun ∧ g = runs h + 1 then some .waiting
    else match e with
      | .begins g' => if g' = g then some .working else phase g h
      | .ends g' goesOn =>
        if g' = g then (if goesOn then some .waiting else none) else phase g h
      | _ => phase g h

/-- Runs have been cancelled after this one was started. -/
def Cancelled (h : List Event) (g : Nat) : Prop :=
  ∃ later e earlier, h = later ++ e :: earlier ∧ e.cancelsRuns = true ∧ g ≤ runs earlier

/-- The run has neither ended nor been cancelled. -/
def Live (h : List Event) (g : Nat) : Prop := phase g h ≠ none ∧ ¬Cancelled h g

/-- The run was live until it was cancelled at the given time. -/
def CancelledAt (h : List Event) (g time : Nat) : Prop :=
  ∃ later e earlier, h = later ++ e :: earlier ∧ e.cancelsAt? = some time ∧ Live earlier g

/-- An arming is granted as the repeater says, and the rounds of a run begin and end in turn. A run
that was cancelled while it waited may begin another round, or never do so. -/
def Lawful : List Event → Prop
  | [] => True
  | e :: h => Lawful h ∧ match e with
    | .arms granted => granted = (replay h).arm?.isSome
    | .begins g => phase g h = some .waiting
    | .ends g _ => phase g h = some .working
    | _ => True

theorem cancelled_cons (e : Event) (h : List Event) (g : Nat) :
    Cancelled (e :: h) g ↔ (e.cancelsRuns = true ∧ g ≤ runs h) ∨ Cancelled h g := by
  constructor
  · intro hc
    obtain ⟨later, e', earlier, he, hcancels, hg⟩ := hc
    rcases List.cons_eq_append_iff.1 he with ⟨rfl, he⟩ | ⟨later, rfl, rfl⟩
    · obtain ⟨rfl, rfl⟩ := List.cons.inj he
      exact .inl ⟨hcancels, hg⟩
    · exact .inr ⟨later, e', earlier, rfl, hcancels, hg⟩
  · intro hc
    rcases hc with ⟨hcancels, hg⟩ | ⟨later, e', earlier, rfl, hcancels, hg⟩
    · exact ⟨[], e, h, rfl, hcancels, hg⟩
    · exact ⟨e :: later, e', earlier, rfl, hcancels, hg⟩

theorem runs_cons (e : Event) (h : List Event) :
    runs (e :: h) = runs h + if e.startsRun then 1 else 0 := by
  simp [runs, List.countP_cons]

theorem runs_append (later h : List Event) : runs h ≤ runs (later ++ h) := by
  simp [runs]

theorem Cancelled.le {h : List Event} {g : Nat} (hc : Cancelled h g) : g ≤ runs h := by
  obtain ⟨later, e, earlier, rfl, -, hg⟩ := hc
  simp only [runs, List.countP_append, List.countP_cons] at hg ⊢
  omega

theorem generation_replay {h : List Event} (hl : Lawful h) : (replay h).generation = runs h := by
  induction h with
  | nil => rfl
  | cons e h ih =>
    obtain ⟨hh, he⟩ := hl
    have hgen := ih hh
    rw [runs_cons, replay]
    cases e with
    | arms granted =>
      subst he
      cases ha : (replay h).armed <;> simp [after, arm?, ha, hgen, Event.startsRun]
    | restarts => simp [after, restart, hgen, Event.startsRun]
    | cancels => simpa [after, Event.startsRun] using hgen
    | begins g => simpa [after, Event.startsRun] using hgen
    | ends g goesOn =>
      cases goesOn with
      | true => simpa [after, Event.startsRun] using hgen
      | false =>
        by_cases hg : (replay h).generation = g <;>
          simp [after, finish, hg, Event.startsRun] <;> omega

theorem phase_cons {e : Event} {h : List Event} (hl : Lawful (e :: h)) (g : Nat) :
    phase g (e :: h) ≠ none ↔
      (e.startsRun = true ∧ g = runs h + 1) ∨ (phase g h ≠ none ∧ e ≠ .ends g false) := by
  obtain ⟨-, he⟩ := hl
  by_cases hnew : e.startsRun = true ∧ g = runs h + 1
  · simp [phase, hnew]
  · cases e with
    | begins g' =>
      by_cases hg : g' = g
      · subst hg
        simp [phase, Event.startsRun, he]
      · simp [phase, Event.startsRun, hg]
    | ends g' goesOn =>
      by_cases hg : g' = g
      · subst hg
        have hthere : phase g' h = some .working := he
        cases goesOn <;> simp [phase, Event.startsRun, hthere]
      · simp [phase, Event.startsRun, hg]
    | _ => simp [phase, hnew]

theorem le_runs_of_phase {h : List Event} (hl : Lawful h) {g : Nat} (hp : phase g h ≠ none) :
    g ≤ runs h := by
  induction h with
  | nil => exact (hp rfl).elim
  | cons e h ih =>
    rw [runs_cons]
    rcases (phase_cons hl g).1 hp with ⟨hstarts, hg⟩ | ⟨hp, -⟩
    · rw [if_pos hstarts]
      omega
    · exact Nat.le_add_right_of_le (ih hl.1 hp)

/-- The live run, if there is one, is that of the latest arming, and it is there while the repeater
is armed. -/
theorem live_iff {h : List Event} (hl : Lawful h) (g : Nat) :
    Live h g ↔ (replay h).armed = true ∧ g = runs h := by
  induction h with
  | nil => simp [Live, phase, replay]
  | cons e h ih =>
    have hlive := ih hl.1
    have hthere : phase g h ≠ none → g ≤ runs h := le_runs_of_phase hl.1
    have hpast : Cancelled h g → g ≤ runs h := Cancelled.le
    have hgen := generation_replay hl.1
    unfold Live at hlive ⊢
    rw [phase_cons hl, cancelled_cons, runs_cons, replay]
    cases e with
    | arms granted =>
      have hgranted : granted = (replay h).arm?.isSome := hl.2
      subst hgranted
      cases ha : (replay h).armed with
      | true =>
        simp only [ha, true_and] at hlive
        simpa [after, arm?, ha, Event.startsRun, Event.cancelsRuns, Event.cancelsAt?] using hlive
      | false =>
        simp only [ha, Bool.false_eq_true, false_and, iff_false] at hlive
        simp only [after, arm?, ha, Event.startsRun, Event.cancelsRuns, Event.cancelsAt?]
        grind
    | restarts =>
      simp only [after, restart, Event.startsRun, Event.cancelsRuns, Event.cancelsAt?]
      grind
    | cancels =>
      simp only [after, armed_cancel, Event.startsRun, Event.cancelsRuns, Event.cancelsAt?]
      grind
    | begins g' => simpa [after, Event.startsRun, Event.cancelsRuns, Event.cancelsAt?] using hlive
    | ends g' goesOn =>
      cases goesOn with
      | true => simpa [after, Event.startsRun, Event.cancelsRuns, Event.cancelsAt?] using hlive
      | false =>
        by_cases hg : runs h = g'
        · simp only [after, finish, hgen, hg, Event.startsRun, Event.cancelsRuns, Event.cancelsAt?]
          grind
        · simp only [after, finish, hgen, hg, Event.startsRun, Event.cancelsRuns, Event.cancelsAt?]
          grind

theorem isLive_replay {h : List Event} (hl : Lawful h) (g : Nat) :
    (replay h).isLive g = true ↔ Live h g := by
  rw [live_iff hl, isLive, Bool.and_eq_true, beq_iff_eq, generation_replay hl, eq_comm (a := g)]

theorem isSome_arm?_replay {h : List Event} (hl : Lawful h) :
    (replay h).arm?.isSome = true ↔ ¬∃ g, Live h g := by
  simp only [live_iff hl, exists_and_left, exists_eq, and_true, arm?]
  cases (replay h).armed <;> simp

theorem cancelledAt_cons (e : Event) (h : List Event) (g time : Nat) :
    CancelledAt (e :: h) g time ↔ (e.cancelsAt? = some time ∧ Live h g) ∨ CancelledAt h g time := by
  constructor
  · intro hc
    obtain ⟨later, e', earlier, he, hcancels, hg⟩ := hc
    rcases List.cons_eq_append_iff.1 he with ⟨rfl, he⟩ | ⟨later, rfl, rfl⟩
    · obtain ⟨rfl, rfl⟩ := List.cons.inj he
      exact .inl ⟨hcancels, hg⟩
    · exact .inr ⟨later, e', earlier, rfl, hcancels, hg⟩
  · intro hc
    rcases hc with ⟨hcancels, hg⟩ | ⟨later, e', earlier, rfl, hcancels, hg⟩
    · exact ⟨[], e, h, rfl, hcancels, hg⟩
    · exact ⟨e :: later, e', earlier, rfl, hcancels, hg⟩

/-- The repeater knows which runs have been cancelled, and when. -/
theorem mem_cancelled_replay {h : List Event} (hl : Lawful h) (g time : Nat) :
    (g, time) ∈ (replay h).cancelled ↔ CancelledAt h g time := by
  induction h with
  | nil => simp [CancelledAt, replay]
  | cons e h ih =>
    have hlive := live_iff hl.1 g
    have hgen := generation_replay hl.1
    have hcancel (now : Nat) : (g, time) ∈ ((replay h).cancel now).cancelled ↔
        (now = time ∧ Live h g) ∨ CancelledAt h g time := by
      rw [cancel, ← ih hl.1, hlive]
      by_cases harmed : (replay h).armed = true
      · rw [if_pos harmed]
        grind
      · simp [harmed]
    rw [cancelledAt_cons, replay]
    cases e with
    | restarts now => simpa [after, restart, Event.cancelsAt?] using hcancel now
    | cancels now => simpa [after, Event.cancelsAt?] using hcancel now
    | arms granted =>
      cases ha : (replay h).armed <;> simpa [after, arm?, ha, Event.cancelsAt?] using ih hl.1
    | begins g' => simpa [after, Event.cancelsAt?] using ih hl.1
    | ends g' goesOn =>
      have hsame : ((replay h).after (.ends g' goesOn)).cancelled = (replay h).cancelled := by
        simp only [after, finish]
        split
        · rfl
        · split <;> rfl
      simpa [hsame, Event.cancelsAt?] using ih hl.1

theorem contested_replay {h : List Event} (hl : Lawful h) (g now ms : Nat) :
    (replay h).contested g now ms = true ↔ ∃ time, CancelledAt h g time ∧ (ms = 0 ∨ time = now) := by
  simp only [contested, List.any_eq_true, ← mem_cancelled_replay hl]
  grind

section Rounds
variable {σ ℓ κ : Type} {get : σ → Repeater} {put : Repeater → σ → σ} {others : σ → σ → Prop}

def Tells (get : σ → Repeater) (h : List Event) (s : σ) : Prop := Lawful h ∧ get s = replay h

def Quiet (g : Nat) (es : List Event) : Prop := ∀ e ∈ es, e.run? ≠ some g

/-- The history of the one state is carried on to the other, without rounds of the run. -/
def Continues (get : σ → Repeater) (g : Nat) (s s' : σ) : Prop :=
  ∀ h, Tells get h s → ∃ es, Tells get (es ++ h) s' ∧ Quiet g es

theorem Continues.of_eq {g : Nat} {s s' : σ} (he : get s' = get s) : Continues get g s s' :=
  fun _ ht => ⟨[], ⟨ht.1, he.trans ht.2⟩, nofun⟩

theorem Continues.trans {g : Nat} {s s₁ s' : σ} (h₁ : Continues get g s s₁)
    (h₂ : Continues get g s₁ s') : Continues get g s s' := by
  intro h ht
  obtain ⟨es, ht₁, hq⟩ := h₁ h ht
  obtain ⟨es', ht', hq'⟩ := h₂ (es ++ h) ht₁
  refine ⟨es' ++ es, by rwa [List.append_assoc], fun e he => ?_⟩
  rcases List.mem_append.1 he with he | he
  · exact hq' e he
  · exact hq e he

theorem continues_of_amid {g : Nat} (ho : ∀ s s', others s s' → Continues get g s s')
    {t t' : List (Change σ)} {s s' : σ} (h : Amid others t s t' s') : Continues get g s s' :=
  h.preserves (P := fun _ s' => Continues get g s s')
    (fun _ _ _ _ hp hs => hp.trans (ho _ _ hs)) (.of_eq rfl)

theorem phase_append {g : Nat} {h es : List Event} (hl : Lawful (es ++ h)) (hq : Quiet g es)
    (hp : phase g h ≠ none) : phase g (es ++ h) = phase g h := by
  induction es with
  | nil => rfl
  | cons e es ih =>
    have hrest := ih hl.1 fun e' he' => hq e' (List.mem_cons_of_mem _ he')
    have hle : g ≤ runs (es ++ h) := le_runs_of_phase hl.1 (hrest ▸ hp)
    have hold : ¬(e.startsRun = true ∧ g = runs (es ++ h) + 1) := by omega
    have he := hq e List.mem_cons_self
    cases e <;> simp_all [phase, Event.run?]

/-- What is needed to run a repeater as a part of a state: whatever others do there, and whatever
drawing a lot and the work of a round do, belongs to the repeater's history, and no other round of
the run is among it. -/
structure Hosts (get : σ → Repeater) (put : Repeater → σ → σ) (others : σ → σ → Prop)
    (lot : Routine σ ℓ κ Bool) (g : Nat) (work : Routine σ ℓ κ Bool) : Prop where
  get_put : ∀ r s, get (put r s) = r
  amid : ∀ s s', others s s' → Continues get g s s'
  draws : ∀ t s a t' s', lot.Plays others t s a t' s' → Continues get g s s'
  works : ∀ t s a t' s', work.Plays others t s a t' s' → Continues get g s s'

/-- The history of a round, and how the run goes on: it plays one round, or it ends unnoticed, which
it does only if it was cancelled during the wait. -/
inductive Rounded (g : Nat) (again : κ) (h : List Event) : Option κ → List Event → Prop
  | lapsed {es : List Event} : Quiet g es → ¬Live (es ++ h) g → Rounded g again h none es
  | played {es es' : List Event} (goesOn : Bool) : Quiet g es → Quiet g es' →
      Rounded g again h (if goesOn then some again else none)
        (.ends g goesOn :: (es' ++ .begins g :: es))

theorem amid_of_pause {ms : Nat} {t t' : List (Change σ)} {s s' : σ} {a : Unit}
    (h : (Routine.pause ms : Routine σ ℓ κ Unit).Plays others t s a t' s') :
    Amid others t s t' s' := by
  cases h with
  | goOn h =>
    cases h
    exact .rest
  | wait _ ho h =>
    cases h
    exact ho

theorem continues_admits {g ms : Nat} {lot work : Routine σ ℓ κ Bool}
    (hhosts : Hosts get put others lot g work) {b : Bool} {t t' : List (Change σ)} {s s' : σ}
    (hplay : (admits get lot g ms).Plays others t s b t' s') :
    Continues get g s s' ∧ (b = false → (get s).isLive g = false) := by
  obtain ⟨_, t₁, s₁, hread, hplay⟩ := Routine.plays_bind.1 hplay
  obtain ⟨now, rfl, rfl, rfl⟩ := Routine.plays_read.1 hread
  split at hplay
  · obtain ⟨rfl, rfl, rfl⟩ := Routine.plays_pure.1 hplay
    exact ⟨.of_eq rfl, nofun⟩
  · rename_i heq
    exact ⟨hhosts.draws _ _ _ _ _ hplay, fun _ => (Prod.mk.inj heq).1⟩
  · rename_i heq
    obtain ⟨rfl, rfl, rfl⟩ := Routine.plays_pure.1 hplay
    exact ⟨.of_eq rfl, fun _ => (Prod.mk.inj heq).1⟩

theorem not_live_append {g : Nat} {h : List Event} (es : List Event) (hp : phase g h ≠ none)
    (hg : ¬Live h g) : ¬Live (es ++ h) g := by
  have hcancelled : Cancelled h g := Classical.byContradiction fun hc => hg ⟨hp, hc⟩
  obtain ⟨later, e, earlier, rfl, he, hle⟩ := hcancelled
  exact fun hlive => hlive.2 ⟨es ++ later, e, earlier, by simp, he, hle⟩

theorem rounded_of_plays {g delay : Nat} {lot work : Routine σ ℓ κ Bool} {again : κ}
    (hhosts : Hosts get put others lot g work) {h : List Event} {x : Option κ}
    {t t' : List (Change σ)} {s s' : σ}
    (hplay : (round get put lot g delay work again).Plays others t s x t' s') (ht : Tells get h s)
    (hp : phase g h = some .waiting) :
    ∃ es, Tells get (es ++ h) s' ∧ Rounded g again h x es := by
  obtain ⟨_, t₁, s₁, hpause, hplay⟩ := Routine.plays_bind.1 hplay
  obtain ⟨begins, t₂, s₂, hadmits, hplay⟩ := Routine.plays_bind.1 hplay
  obtain ⟨hdrawn, hover⟩ := continues_admits hhosts hadmits
  obtain ⟨es₁, ht₁, hq₁⟩ := continues_of_amid hhosts.amid (amid_of_pause hpause) h ht
  have hthere₁ : phase g (es₁ ++ h) = some .waiting := by
    rw [phase_append ht₁.1 hq₁ (by simp [hp]), hp]
  obtain ⟨es₂, ht₂, hq₂⟩ := hdrawn _ ht₁
  have hthere : phase g (es₂ ++ (es₁ ++ h)) = some .waiting := by
    rw [phase_append ht₂.1 hq₂ (by simp [hthere₁]), hthere₁]
  have hq : Quiet g (es₂ ++ es₁) := List.forall_mem_append.2 ⟨hq₂, hq₁⟩
  rw [← List.append_assoc] at ht₂ hthere
  split at hplay
  · -- the round begins, its work is played, and it ends
    obtain ⟨goesOn, t₃, s₃, hwork, hplay⟩ := Routine.plays_bind.1 hplay
    have hbegun : Tells get (.begins g :: (es₂ ++ es₁ ++ h)) s₂ := ⟨⟨ht₂.1, hthere⟩, ht₂.2⟩
    obtain ⟨es', ht₃, hq'⟩ := hhosts.works _ _ _ _ _ hwork _ hbegun
    have hworking : phase g (es' ++ .begins g :: (es₂ ++ es₁ ++ h)) = some .working := by
      rw [phase_append ht₃.1 hq'] <;> simp [phase, Event.startsRun]
    have hended (goesOn : Bool) :
        Lawful (.ends g goesOn :: (es' ++ .begins g :: (es₂ ++ es₁ ++ h))) :=
      ⟨ht₃.1, hworking⟩
    refine ⟨.ends g goesOn :: (es' ++ .begins g :: (es₂ ++ es₁)), ?_⟩
    split at hplay
    · rename_i hgoes
      obtain ⟨rfl, rfl, rfl⟩ := Routine.plays_pure.1 hplay
      subst hgoes
      refine ⟨⟨by simpa using hended true, ?_⟩, .played true hq hq'⟩
      simpa [replay, after] using ht₃.2
    · rename_i hstops
      obtain ⟨_, t₄, s₄, hfinish, hplay⟩ := Routine.plays_bind.1 hplay
      obtain ⟨_, rfl, rfl⟩ := Routine.plays_change.1 hfinish
      obtain ⟨rfl, rfl, rfl⟩ := Routine.plays_pure.1 hplay
      rw [Bool.not_eq_true] at hstops
      subst hstops
      refine ⟨⟨by simpa using hended false, ?_⟩, .played false hq hq'⟩
      simp [hhosts.get_put, ht₃.2, replay, after]
  · rename_i hg
    obtain ⟨rfl, rfl, rfl⟩ := Routine.plays_pure.1 hplay
    have hstill : ¬Live (es₁ ++ h) g := by
      rw [← isLive_replay ht₁.1, ← ht₁.2, hover (by simpa using hg)]
      nofun
    refine ⟨es₂ ++ es₁, ht₂, .lapsed hq ?_⟩
    rw [List.append_assoc]
    exact not_live_append es₂ (by simp [hthere₁]) hstill

end Rounds

/-- There is at most one live run, and there is one just when the repeater is armed; just when there
is none an arming is granted. A run that ends disarms the repeater only if it is that of the latest
arming. Rounds add to the history what they should, whatever others do meanwhile. -/
theorem one_live_run (h : List Event) (hl : Lawful h) :
    (∀ g g', Live h g → Live h g' → g = g') ∧
    ((replay h).armed = true ↔ ∃ g, Live h g) ∧
    ((replay h).arm?.isSome = true ↔ ¬∃ g, Live h g) ∧
    (∀ g, Lawful (.ends g false :: h) → (replay h).armed = true →
      (replay (.ends g false :: h)).armed = false → g = runs h) ∧
    ∀ {σ ℓ κ : Type} (get : σ → Repeater) (put : Repeater → σ → σ) (others : σ → σ → Prop)
      (lot : Routine σ ℓ κ Bool) (g delay : Nat) (work : Routine σ ℓ κ Bool) (again : κ)
      (x : Option κ) (t t' : List (Change σ)) (s s' : σ), Hosts get put others lot g work →
      Tells get h s → phase g h = some .waiting →
      (round get put lot g delay work again).Plays others t s x t' s' →
      ∃ es, Tells get (es ++ h) s' ∧ Rounded g again h x es := by
  have hlive := live_iff hl
  refine ⟨?_, ?_, ?_, ?_, ?_⟩
  · intro g g' hg hg'
    exact ((hlive g).1 hg).2.trans ((hlive g').1 hg').2.symm
  · simp only [hlive, exists_and_left, exists_eq, and_true]
  · exact isSome_arm?_replay hl
  · intro g _ harmed hdisarmed
    by_cases hg : (replay h).generation = g
    · rw [← hg, generation_replay hl]
    · simp [replay, after, finish, hg, harmed] at hdisarmed
  · intro σ ℓ κ get put others lot g delay work again x t t' s s' hhosts ht hp hplay
    exact rounded_of_plays hhosts hplay ht hp

end Repeater

namespace Rehearsal
open Repeater
variable {others : Stage → Stage → Prop} {g : Nat} {t t' : List (Change Stage)} {s s' : Stage}

theorem continues_arm {a : Arming} {granted : Bool}
    (hplay : (arm a).Plays others t s granted t' s') : Continues Stage.repeater g s s' := by
  obtain ⟨r, t₁, s₁, hread, hplay⟩ := Routine.plays_bind.1 hplay
  obtain ⟨_, rfl, rfl, rfl⟩ := Routine.plays_read.1 hread
  cases hr : s₁.repeater.arm? with
  | none =>
    rw [hr] at hplay
    obtain ⟨rfl, rfl, rfl⟩ := Routine.plays_pure.1 hplay
    exact .of_eq rfl
  | some r =>
    rw [hr] at hplay
    obtain ⟨_, t₂, s₂, hchange, hplay⟩ := Routine.plays_bind.1 hplay
    obtain ⟨_, rfl, rfl⟩ := Routine.plays_change.1 hchange
    obtain ⟨_, t₃, s₃, hspawn, hplay⟩ := Routine.plays_bind.1 hplay
    obtain ⟨rfl, rfl, rfl⟩ := Routine.plays_pure.1 hplay
    cases hspawn with
    | start hspawn =>
      cases hspawn
      intro h ht
      have harm : (replay h).arm? = some r := ht.2 ▸ hr
      refine ⟨[.arms true], ⟨⟨ht.1, ?_⟩, ?_⟩, by simp [Quiet, Event.run?]⟩
      · simp [harm]
      · simp [replay, after, harm]

theorem continues_cancel {a : Unit} (hplay : cancel.Plays others t s a t' s') :
    Continues Stage.repeater g s s' := by
  obtain ⟨now, rfl, rfl⟩ := Routine.plays_change.1 hplay
  intro h ht
  refine ⟨[.cancels now], ⟨⟨ht.1, trivial⟩, ?_⟩, by simp [Quiet, Event.run?]⟩
  simp [replay, after, ht.2]

theorem continues_restart {a : Arming} {u : Unit}
    (hplay : (restart a).Plays others t s u t' s') : Continues Stage.repeater g s s' := by
  obtain ⟨_, t₁, s₁, hcancel, hplay⟩ := Routine.plays_bind.1 hplay
  obtain ⟨granted, t₂, s₂, harm, hplay⟩ := Routine.plays_bind.1 hplay
  obtain ⟨rfl, rfl, rfl⟩ := Routine.plays_pure.1 hplay
  exact (continues_cancel hcancel).trans (continues_arm harm)

/-- A rehearsal runs its repeater as it should, also where a round that ends its run has first
armed the repeater anew. -/
theorem hosts_work (a : Arming) (ho : ∀ s s', others s s' → Continues Stage.repeater g s s') :
    Hosts Stage.repeater (fun r s => { s with repeater := r }) others drawLot g (work a) := by
  refine ⟨fun _ _ => rfl, ho, fun t s b t' s' hplay => ?_, fun t s goesOn t' s' hplay => ?_⟩
  · obtain ⟨_, hdraw⟩ := Routine.plays_act.1 hplay
    obtain ⟨rfl, rfl, rfl⟩ := Routine.plays_pure.1 hdraw
    exact .of_eq rfl
  obtain ⟨n, t₁, s₁, hnote, hplay⟩ := Routine.plays_bind.1 hplay
  obtain ⟨_, hnote⟩ := Routine.plays_act.1 hnote
  obtain ⟨rfl, rfl, rfl⟩ := Routine.plays_pure.1 hnote
  obtain ⟨_, t₂, s₂, hpause, hplay⟩ := Routine.plays_bind.1 hplay
  have hwait : Continues Stage.repeater g s s₂ := by
    apply Continues.trans _ (continues_of_amid ho (amid_of_pause hpause))
    exact .of_eq rfl
  split at hplay
  · obtain ⟨_, t₃, s₃, hsuccessor, hplay⟩ := Routine.plays_bind.1 hplay
    obtain ⟨rfl, rfl, rfl⟩ := Routine.plays_pure.1 hplay
    cases hs : a.successor with
    | none =>
      rw [hs] at hsuccessor
      obtain ⟨rfl, rfl, rfl⟩ := Routine.plays_pure.1 hsuccessor
      exact hwait
    | some b =>
      rw [hs] at hsuccessor
      exact hwait.trans (continues_restart hsuccessor)
  · obtain ⟨rfl, rfl, rfl⟩ := Routine.plays_pure.1 hplay
    exact hwait

/-- Its only round arms the repeater anew, and ends the run. -/
def rearming : Arming where
  id := "first"
  delay := 0
  period := 100
  stopAfter := 1
  successor := some { id := "second", delay := 0, period := 100, stopAfter := 0 }

theorem one_live_run_rearming :
    let stage : Stage := { repeater := ⟨1, true, []⟩ }
    Lawful [.arms true] ∧ Tells Stage.repeater [.arms true] stage ∧
    Hosts Stage.repeater (fun r s => { s with repeater := r }) (fun s s' => s' = s) drawLot 1
      (work rearming) ∧
    ∃ x t s es, (body ⟨rearming, 1, 0⟩).Plays (fun s s' => s' = s) [] stage x t s ∧
      s.repeater = ⟨2, true, [(1, 0)]⟩ ∧ Tells Stage.repeater (es ++ [.arms true]) s ∧
      Rounded 1 ⟨rearming, 1, 100⟩ [.arms true] x es ∧
      ∀ g, Live (es ++ [.arms true]) g ↔ g = 2 := by
  intro stage
  have hl : Lawful [.arms true] := ⟨trivial, by decide⟩
  have ht : Tells Stage.repeater [.arms true] stage := ⟨hl, by decide⟩
  have hhosts : Hosts Stage.repeater (fun r s => { s with repeater := r }) (fun s s' => s' = s)
      drawLot 1 (work rearming) := hosts_work rearming fun _ _ he => .of_eq (congrArg _ he)
  have hplay := Routine.plays_alone (fun s s' : Stage => s' = s) 0 (body ⟨rearming, 1, 0⟩) [] stage
  obtain ⟨-, -, -, -, hrounds⟩ := one_live_run [.arms true] hl
  obtain ⟨es, hends, hround⟩ := hrounds _ _ _ _ _ _ _ _ _ _ _ _ _ hhosts ht (by decide) hplay
  have hagain : replay (es ++ [.arms true]) = ⟨2, true, [(1, 0)]⟩ :=
    hends.2.symm.trans (by decide +kernel)
  refine ⟨hl, ht, hhosts, _, _, _, es, hplay, by decide +kernel, hends, hround, fun g => ?_⟩
  rw [live_iff hends.1, ← generation_replay hends.1, hagain]
  simp

end Rehearsal
end Failover
