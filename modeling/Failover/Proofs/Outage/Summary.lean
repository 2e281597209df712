import Failover.Outage
import Mathlib.Data.List.DropRight

/-!
The memory of what has failed is a summary of what happened. Each of its fields is read here off the
history alone, without running it: what counts of a history is what followed the latest recovery of
a role, or the latest event at which the search for a server starts afresh. A history has the latest
event first.
-/
namespace Failover
namespace Outage

/-- The memory that a history leaves. -/
def recount : List Event → Outage
  | [] => {}
  | e :: earlier => (recount earlier).apply e

/-- The two roles that can fail. -/
inductive Track where
  | primary
  | secondary
  deriving DecidableEq

def Track.since : Track → Outage → Option Nat
  | .primary, o => o.primarySince
  | .secondary, o => o.secondarySince

def Track.failure? : Track → Event → Option Nat
  | .primary, .primaryFailed time => some time
  | .secondary, .secondaryFailed time => some time
  | _, _ => none

def Track.found : Track → Event
  | .primary => .primaryFound
  | .secondary => .secondaryFound

def attempt? : Event → Option Nat
  | .attempt time => some time
  | _ => none

def readOnly? : Event → Option Bool
  | .readOnly requested => some requested
  | _ => none

/-- What happened since the role was last found. -/
def stretch (track : Track) (h : List Event) : List Event :=
  h.takeWhile (· ≠ track.found)

/-- The first failure of the role since it was last found. -/
def firstFailure (track : Track) (h : List Event) : Option Nat :=
  ((stretch track h).filterMap track.failure?).getLast?

def sinceFailure (track : Track) (h : List Event) : List Event :=
  (stretch track h).rdropWhile fun e => (track.failure? e).isNone

/-- The queries since the first failure of the primary. -/
def unserved (h : List Event) : Nat := (sinceFailure .primary h).count .query

/-- Either role was found, or one that was not failed has failed. -/
def renews (e : Event) (earlier : List Event) : Bool :=
  match e with
  | .primaryFound | .secondaryFound => true
  | .primaryFailed _ => (firstFailure .primary earlier).isNone
  | .secondaryFailed _ => (firstFailure .secondary earlier).isNone
  | _ => false

def sinceRenewal : List Event → List Event
  | [] => []
  | e :: earlier => if renews e earlier then [] else e :: sinceRenewal earlier

/-- The attempts since the search for a server last started afresh. -/
def tries (h : List Event) : Nat := (sinceRenewal h).countP fun e => (attempt? e).isSome

/-- The latest attempt since either role was found. -/
def latestAttempt (h : List Event) : Option Nat :=
  ((h.takeWhile fun e => e ≠ .primaryFound ∧ e ≠ .secondaryFound).filterMap attempt?).head?

/-- What was last said about a read-only session. -/
def latestRequest (h : List Event) : Bool := (h.filterMap readOnly?).head?.getD false

theorem stretch_cons (track : Track) (e : Event) (h : List Event) :
    stretch track (e :: h) = if e = track.found then [] else e :: stretch track h := by
  by_cases he : e = track.found <;> simp [stretch, he]

theorem firstFailure_cons (track : Track) (e : Event) (h : List Event) :
    firstFailure track (e :: h) =
      if e = track.found then none else (firstFailure track h).or (track.failure? e) := by
  by_cases he : e = track.found
  · simp [firstFailure, stretch_cons, he]
  · cases hf : track.failure? e with
    | none => simp [firstFailure, stretch_cons, he, hf]
    | some time =>
      simp only [firstFailure, stretch_cons, he, if_false, List.filterMap_cons, hf,
        List.getLast?_cons]
      cases ((stretch track h).filterMap track.failure?).getLast? <;> simp

theorem isSome_firstFailure (track : Track) (h : List Event) :
    (firstFailure track h).isSome ↔ ∃ e ∈ stretch track h, (track.failure? e).isSome := by
  rw [Option.isSome_iff_ne_none, ne_eq, firstFailure, List.getLast?_eq_none_iff,
    List.filterMap_eq_nil_iff]
  simp [Option.isSome_iff_ne_none]

theorem since_apply (track : Track) (o : Outage) (e : Event) :
    track.since (o.apply e) =
      if e = track.found then none else (track.since o).or (track.failure? e) := by
  cases track with
  | primary =>
    cases hs : o.primarySince <;> cases e <;>
      simp [apply, markPrimary, markSecondary, resetPrimary, resetSecondary, countQuery,
        recordAttempt, setReadOnly, primaryFailed, Track.since, Track.found, Track.failure?, hs,
        apply_ite primarySince]
  | secondary =>
    cases hs : o.secondarySince <;> cases e <;>
      simp [apply, markPrimary, markSecondary, resetPrimary, resetSecondary, countQuery,
        recordAttempt, setReadOnly, secondaryFailed, Track.since, Track.found, Track.failure?, hs,
        apply_ite secondarySince]

theorem since_recount (track : Track) (h : List Event) :
    track.since (recount h) = firstFailure track h := by
  induction h with
  | nil => cases track <;> rfl
  | cons e h ih => rw [recount, since_apply, firstFailure_cons, ih]

theorem isEmpty_sinceFailure (track : Track) (h : List Event) :
    (sinceFailure track h).isEmpty = (firstFailure track h).isNone := by
  rw [Bool.eq_iff_iff]
  simp [sinceFailure, firstFailure]

theorem rdropWhile_cons {α : Type} (p : α → Bool) (x : α) (l : List α) :
    (x :: l).rdropWhile p =
      if (l.rdropWhile p).isEmpty && p x then [] else x :: l.rdropWhile p := by
  simp only [List.rdropWhile, List.reverse_cons, List.dropWhile_append]
  by_cases hl : l.reverse.dropWhile p = []
  · by_cases hx : p x <;> simp [hl, hx]
  · simp [hl]

theorem unserved_cons (e : Event) (h : List Event) :
    unserved (e :: h) =
      if e = .primaryFound then 0
      else if e = .query ∧ (firstFailure .primary h).isSome then unserved h + 1
      else unserved h := by
  by_cases hp : e = .primaryFound
  · simp [unserved, sinceFailure, stretch_cons, Track.found, hp]
  · have hc : sinceFailure .primary (e :: h) =
        if (sinceFailure .primary h).isEmpty && (Track.primary.failure? e).isNone then []
        else e :: sinceFailure .primary h := by
      rw [sinceFailure, stretch_cons, Track.found, if_neg hp, rdropWhile_cons]
      rfl
    rw [unserved, hc, isEmpty_sinceFailure]
    cases hf : firstFailure .primary h with
    | some time => by_cases hq : e = .query <;> simp [hq, hp, unserved]
    | none =>
      have hn : sinceFailure .primary h = [] := by
        rw [← List.isEmpty_iff, isEmpty_sinceFailure, hf, Option.isNone_none]
      by_cases hq : e = .query
      · simp [hq, unserved, hn, Track.failure?]
      · by_cases hm : (Track.primary.failure? e).isNone <;> simp [hn, hq, hp, hm, unserved]

theorem queries_apply (o : Outage) (e : Event) :
    (o.apply e).queries =
      if e = .primaryFound then 0
      else if e = .query ∧ o.primarySince.isSome then o.queries + 1 else o.queries := by
  cases hs : o.primarySince <;> cases e <;>
    simp [apply, markPrimary, markSecondary, resetPrimary, resetSecondary, countQuery,
      recordAttempt, setReadOnly, primaryFailed, hs, apply_ite queries]

theorem queries_recount (h : List Event) :
    (recount h).queries = UInt32.ofNat (unserved h) := by
  induction h with
  | nil => rfl
  | cons e h ih =>
    rw [recount, queries_apply, unserved_cons, ← since_recount, Track.since, ih]
    by_cases hp : e = .primaryFound
    · simp [hp]
    · by_cases hq : e = .query ∧ (recount h).primarySince.isSome
      · rw [if_neg hp, if_pos hq, if_neg hp, if_pos hq, UInt32.ofNat_add]
        rfl
      · rw [if_neg hp, if_neg hq, if_neg hp, if_neg hq]

theorem attempts_apply (o : Outage) (e : Event) (h : List Event)
    (hs : ∀ track : Track, track.since o = firstFailure track h) :
    (o.apply e).attempts =
      if renews e h then 0
      else if (attempt? e).isSome then o.attempts + 1 else o.attempts := by
  have hp := hs .primary
  have hr := hs .secondary
  simp only [Track.since] at hp hr
  cases e <;>
    simp [apply, markPrimary, markSecondary, resetPrimary, resetSecondary, countQuery,
      recordAttempt, setReadOnly, primaryFailed, secondaryFailed, renews, attempt?, ← hp, ← hr,
      apply_ite attempts, Option.isSome_iff_ne_none, ite_not]

theorem attempts_recount (h : List Event) :
    (recount h).attempts = UInt32.ofNat (tries h) := by
  induction h with
  | nil => rfl
  | cons e h ih =>
    rw [recount, attempts_apply _ _ h fun track => since_recount track h, ih]
    by_cases hr : renews e h
    · simp [tries, sinceRenewal, hr]
    · by_cases ha : (attempt? e).isSome
      · simp only [tries, sinceRenewal, hr, ha, Bool.false_eq_true, if_false, if_true,
          List.countP_cons, UInt32.ofNat_add]
        rfl
      · simp [tries, sinceRenewal, hr, ha]

theorem lastRetry_apply (o : Outage) (e : Event) :
    (o.apply e).lastRetry =
      if e = .primaryFound ∨ e = .secondaryFound then none else (attempt? e).or o.lastRetry := by
  cases e <;>
    simp [apply, markPrimary, markSecondary, resetPrimary, resetSecondary, countQuery,
      recordAttempt, setReadOnly, attempt?, apply_ite lastRetry]

theorem lastRetry_recount (h : List Event) : (recount h).lastRetry = latestAttempt h := by
  induction h with
  | nil => rfl
  | cons e h ih =>
    rw [recount, lastRetry_apply, ih]
    by_cases hf : e = .primaryFound ∨ e = .secondaryFound
    · have hd : ¬(e ≠ .primaryFound ∧ e ≠ .secondaryFound) := by tauto
      simp [latestAttempt, hf, hd]
    · have hd : e ≠ .primaryFound ∧ e ≠ .secondaryFound := by tauto
      cases ha : attempt? e <;> simp [latestAttempt, hd, ha]

theorem readOnlyRequested_apply (o : Outage) (e : Event) :
    (o.apply e).readOnlyRequested = (readOnly? e).getD o.readOnlyRequested := by
  cases e <;>
    simp [apply, markPrimary, markSecondary, resetPrimary, resetSecondary, countQuery,
      recordAttempt, setReadOnly, readOnly?, apply_ite readOnlyRequested]

theorem readOnlyRequested_recount (h : List Event) :
    (recount h).readOnlyRequested = latestRequest h := by
  induction h with
  | nil => rfl
  | cons e h ih =>
    rw [recount, readOnlyRequested_apply, ih]
    cases hr : readOnly? e <;> simp [latestRequest, hr]

theorem shouldReconnectReplicated_iff (now : Nat) (options : Options) (inTransaction : Bool)
    (o : Outage) :
    o.shouldReconnectReplicated now options inTransaction ↔
      inTransaction = false ∧ o.attempts ≤ options.retriesAllDown ∧
        ((∃ failed, o.primarySince = some failed ∧
            (options.queriesBeforeRetryMaster ≤ o.queries ∨
              millis options.secondsBeforeRetryMaster ≤ now - failed)) ∨
          ∃ failed, o.secondarySince = some failed ∧
            millis options.secondsBeforeRetryMaster ≤ now - failed) := by
  cases hp : o.primarySince <;> cases hs : o.secondarySince <;> cases inTransaction <;>
    simp [shouldReconnectReplicated, anyFailed, primaryFailed, secondaryFailed, isDue, hp, hs]

/-- The history tells since when each role is failed, the latest attempt and, unless they overflow,
the counters. The search starts afresh with a failure just when the role was not failed before. With
a replica, the history alone decides when a server is sought again. -/
theorem recount_summarizes (h : List Event) (now : Nat) (options : Options) (inTransaction : Bool)
    (hq : unserved h < UInt32.size) (ha : tries h < UInt32.size) :
    (∀ track : Track, (track.since (recount h)).isSome ↔
      ∃ e ∈ stretch track h, (track.failure? e).isSome) ∧
    (∀ track : Track, track.since (recount h) = firstFailure track h) ∧
    (recount h).queries.toNat = unserved h ∧
    ((recount h).primarySince = none → (recount h).queries = 0) ∧
    (recount h).attempts.toNat = tries h ∧
    (∀ time, renews (.primaryFailed time) h = !(recount h).primaryFailed) ∧
    (∀ time, renews (.secondaryFailed time) h = !(recount h).secondaryFailed) ∧
    (recount h).lastRetry = latestAttempt h ∧
    (recount h).readOnlyRequested = latestRequest h ∧
    ((recount h).shouldReconnectReplicated now options inTransaction ↔
      inTransaction = false ∧ tries h ≤ options.retriesAllDown.toNat ∧
        ((∃ failed, firstFailure .primary h = some failed ∧
            (options.queriesBeforeRetryMaster.toNat ≤ unserved h ∨
              millis options.secondsBeforeRetryMaster ≤ now - failed)) ∨
          ∃ failed, firstFailure .secondary h = some failed ∧
            millis options.secondsBeforeRetryMaster ≤ now - failed)) := by
  have hqueries : (recount h).queries.toNat = unserved h := by
    rw [queries_recount, UInt32.toNat_ofNat_of_lt' hq]
  have hattempts : (recount h).attempts.toNat = tries h := by
    rw [attempts_recount, UInt32.toNat_ofNat_of_lt' ha]
  have hprimary := since_recount .primary h
  have hsecondary := since_recount .secondary h
  refine ⟨?_, fun track => since_recount track h, hqueries, ?_, hattempts, ?_, ?_,
    lastRetry_recount h, readOnlyRequested_recount h, ?_⟩
  · intro track
    rw [since_recount, isSome_firstFailure]
  · intro hn
    have hnone : sinceFailure .primary h = [] := by
      rw [← List.isEmpty_iff, isEmpty_sinceFailure, ← hprimary, Track.since, hn, Option.isNone_none]
    rw [queries_recount, unserved, hnone]
    rfl
  · intro time
    rw [renews, ← hprimary, primaryFailed, Track.since, Option.not_isSome]
  · intro time
    rw [renews, ← hsecondary, secondaryFailed, Track.since, Option.not_isSome]
  · rw [shouldReconnectReplicated_iff, ← hprimary, ← hsecondary, ← hqueries, ← hattempts]
    rfl

/-- The primary has failed twice, the secondary once, and one of the attempts came before that. -/
def eventful : List Event :=
  [.query, .attempt 60, .secondaryFailed 50, .attempt 45, .query, .primaryFailed 40,
    .primaryFailed 30, .query, .primaryFound, .attempt 10]

theorem recount_summarizes_eventful :
    unserved eventful < UInt32.size ∧ tries eventful < UInt32.size ∧
    (recount eventful).primarySince = some 30 ∧
    (recount eventful).secondarySince = some 50 ∧
    (recount eventful).queries.toNat = 2 ∧
    (recount eventful).attempts.toNat = 1 ∧
    (recount eventful).lastRetry = some 60 ∧
    (recount eventful).shouldReconnectReplicated 100 { queriesBeforeRetryMaster := 2 } false := by
  have hq : unserved eventful < UInt32.size := by decide
  have ha : tries eventful < UInt32.size := by decide
  obtain ⟨-, hsince, hqueries, -, hattempts, -, -, hretry, -, hagain⟩ :=
    recount_summarizes eventful 100 { queriesBeforeRetryMaster := 2 } false hq ha
  refine ⟨hq, ha, (hsince .primary).trans (by decide), (hsince .secondary).trans (by decide),
    hqueries.trans (by decide), hattempts.trans (by decide), hretry.trans (by decide), ?_⟩
  rw [hagain]
  refine ⟨rfl, by decide, Or.inl ⟨30, by decide, Or.inl ?_⟩⟩
  decide

end Outage
end Failover
