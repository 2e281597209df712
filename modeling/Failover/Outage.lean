import Failover.Options

/-!
The memory of what has failed: since when each role is down, how often it was sought since, and how
many queries ran without a primary. Times are milliseconds of one clock. That a role is failed and
since when are one here; kept apart they would tell the same (`flags_apply`).
-/
namespace Failover

structure Outage where
  /-- When the primary failed, while it is failed. -/
  primarySince : Option Nat := none
  secondarySince : Option Nat := none
  /-- Reconnections tried since the last failure or recovery. -/
  attempts : UInt32 := 0
  /-- Queries issued since the primary failed. -/
  queries : UInt32 := 0
  lastRetry : Option Nat := none
  /-- The caller asked for a read-only session. -/
  readOnlyRequested : Bool := false
  deriving DecidableEq

namespace Outage

def primaryFailed (o : Outage) : Bool := o.primarySince.isSome

def secondaryFailed (o : Outage) : Bool := o.secondarySince.isSome

def anyFailed (o : Outage) : Bool := o.primaryFailed || o.secondaryFailed

/-- Records a failure of the primary unless it is failed already. -/
def markPrimary (now : Nat) (o : Outage) : Outage :=
  if o.primaryFailed then o else { o with primarySince := some now, attempts := 0 }

def markSecondary (now : Nat) (o : Outage) : Outage :=
  if o.secondaryFailed then o else { o with secondarySince := some now, attempts := 0 }

def resetPrimary (o : Outage) : Outage :=
  { o with primarySince := none, attempts := 0, lastRetry := none, queries := 0 }

def resetSecondary (o : Outage) : Outage :=
  { o with secondarySince := none, attempts := 0, lastRetry := none }

def countQuery (o : Outage) : Outage :=
  if o.primaryFailed then { o with queries := o.queries + 1 } else o

def recordAttempt (now : Nat) (o : Outage) : Outage :=
  { o with attempts := o.attempts + 1, lastRetry := some now }

def setReadOnly (requested : Bool) (o : Outage) : Outage :=
  { o with readOnlyRequested := requested }

def isDue (options : Options) (now : Nat) (since : Option Nat) : Bool :=
  since.any fun time => millis options.secondsBeforeRetryMaster ≤ now - time

/-- With a replica, a failed primary is sought again after enough queries or enough time, a failed
secondary after enough time, within the budget and outside transactions. -/
def shouldReconnectReplicated (now : Nat) (options : Options) (inTransaction : Bool)
    (o : Outage) : Bool :=
  o.anyFailed && !inTransaction && decide (o.attempts ≤ options.retriesAllDown) &&
    ((o.primaryFailed && (decide (options.queriesBeforeRetryMaster ≤ o.queries) ||
        isDue options now o.primarySince)) ||
      isDue options now o.secondarySince)

def shouldReconnectSingle (options : Options) (o : Outage) : Bool :=
  o.primaryFailed && decide (o.attempts < options.maxReconnects)

def singleExhausted (options : Options) (o : Outage) : Bool :=
  decide (options.maxReconnects ≤ o.attempts)

def replicatedExhausted (options : Options) (o : Outage) : Bool :=
  decide (options.retriesAllDown < o.attempts)

theorem primaryFailed_markPrimary (now : Nat) (o : Outage) :
    (o.markPrimary now).primaryFailed = true := by
  by_cases h : o.primaryFailed = true <;> simp_all [markPrimary, primaryFailed]

theorem secondaryFailed_markSecondary (now : Nat) (o : Outage) :
    (o.markSecondary now).secondaryFailed = true := by
  by_cases h : o.secondaryFailed = true <;> simp_all [markSecondary, secondaryFailed]

@[simp] theorem primaryFailed_resetPrimary (o : Outage) :
    o.resetPrimary.primaryFailed = false := rfl

@[simp] theorem secondaryFailed_resetSecondary (o : Outage) :
    o.resetSecondary.secondaryFailed = false := rfl

inductive Event where
  | primaryFailed (time : Nat)
  | secondaryFailed (time : Nat)
  | primaryFound
  | secondaryFound
  | query
  | attempt (time : Nat)
  | readOnly (requested : Bool)
  deriving DecidableEq

def apply (o : Outage) : Event → Outage
  | .primaryFailed time => o.markPrimary time
  | .secondaryFailed time => o.markSecondary time
  | .primaryFound => o.resetPrimary
  | .secondaryFound => o.resetSecondary
  | .query => o.countQuery
  | .attempt time => o.recordAttempt time
  | .readOnly requested => o.setReadOnly requested

/-- For each role a flag and a time, kept in two fields. -/
structure Flags where
  primaryFailed : Bool := false
  primaryFailedAt : Option Nat := none
  secondaryFailed : Bool := false
  secondaryFailedAt : Option Nat := none

def Flags.apply (f : Flags) : Event → Flags
  | .primaryFailed time =>
    if f.primaryFailed then f else { f with primaryFailed := true, primaryFailedAt := some time }
  | .secondaryFailed time =>
    if f.secondaryFailed then f
    else { f with secondaryFailed := true, secondaryFailedAt := some time }
  | .primaryFound => { f with primaryFailed := false, primaryFailedAt := none }
  | .secondaryFound => { f with secondaryFailed := false, secondaryFailedAt := none }
  | _ => f

def flags (o : Outage) : Flags :=
  ⟨o.primaryFailed, o.primarySince, o.secondaryFailed, o.secondarySince⟩

/-- A flag and its time are set together and cleared together. -/
theorem flags_apply (o : Outage) (e : Event) : (o.apply e).flags = o.flags.apply e := by
  cases e with
  | primaryFailed time =>
    cases h : o.primarySince <;> simp [apply, flags, Flags.apply, markPrimary, primaryFailed, h,
      secondaryFailed]
  | secondaryFailed time =>
    cases h : o.secondarySince <;> simp [apply, flags, Flags.apply, markSecondary, secondaryFailed, h,
      primaryFailed]
  | query =>
    simp only [apply, countQuery, Flags.apply]
    split <;> rfl
  | _ => rfl

end Outage
end Failover
