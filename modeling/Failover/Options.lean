import Failover.Text.Blank
import Failover.Text.Numeral

/-! The tunables of a session, and the driver properties that set them. -/
namespace Failover

structure Options where
  /-- Reconnect at once and send the failed operation again. -/
  autoReconnect : Bool := false
  /-- Pause before a lone host is tried again, in seconds. -/
  initialTimeoutSec : UInt64 := 2
  /-- Reconnection budget of a session with one writer. -/
  maxReconnects : UInt32 := 3
  /-- Seconds after which a failed role is tried again. -/
  secondsBeforeRetryMaster : UInt64 := 50
  /-- Queries after which a failed primary is tried again. -/
  queriesBeforeRetryMaster : UInt32 := 30
  /-- Reconnection budget of a session with a replica. -/
  retriesAllDown : UInt32 := 120
  /-- Idle seconds before the primary is checked; zero turns the check off. -/
  validConnectionTimeoutSec : UInt64 := 120
  /-- Seconds a failed host is left out. -/
  blacklistTimeoutSec : UInt64 := 60
  deriving DecidableEq

def millis (secs : UInt64) : Nat := secs.toNat * 1000

namespace Options

inductive Flaw where
  | maxReconnects
  | retriesAllDown
  | blacklistTimeout
  deriving DecidableEq

def Flaw.message : Flaw → String
  | .maxReconnects => "max_reconnects must be greater than 0"
  | .retriesAllDown => "retries_all_down must be greater than 0"
  | .blacklistTimeout => "blacklist_timeout_sec must be greater than 0"

def flaw? (o : Options) : Option Flaw :=
  if o.maxReconnects = 0 then some .maxReconnects
  else if o.retriesAllDown = 0 then some .retriesAllDown
  else if o.blacklistTimeoutSec = 0 then some .blacklistTimeout
  else none

def idleTimeout? (o : Options) : Option Nat :=
  if o.validConnectionTimeoutSec = 0 then none else some (millis o.validConnectionTimeoutSec)

structure PropertyFlaw where
  key : String
  value : String
  deriving DecidableEq

def PropertyFlaw.message (f : PropertyFlaw) : String :=
  "Invalid value for " ++ f.key ++ ": " ++ f.value

/-- The value of a property, or `fallback` where it is not given. -/
def property (read : List Char → Option α) (key : String) (fallback : α)
    (properties : List (String × String)) : Except PropertyFlaw α :=
  match properties.lookup key with
  | none => .ok fallback
  | some value =>
    match read (Text.trim value.toList) with
    | none => .error ⟨key, value⟩
    | some a => .ok a

/-- Only the word true, in any case, switches a property on. -/
def isTrue (value : String) : Bool :=
  (Text.trim value.toList).map Char.toLower == "true".toList

/-- Options from driver properties. Unknown keys are ignored; the first bad number is reported. -/
def ofProperties (properties : List (String × String)) : Except PropertyFlaw Options := do
  let o : Options := {}
  let initialTimeout ← property Text.word64? "initialTimeout" o.initialTimeoutSec properties
  let maxReconnects ← property Text.word32? "maxReconnects" o.maxReconnects properties
  let queries ←
    property Text.word32? "queriesBeforeRetryMaster" o.queriesBeforeRetryMaster properties
  let seconds ←
    property Text.word64? "secondsBeforeRetryMaster" o.secondsBeforeRetryMaster properties
  let retries ← property Text.word32? "retriesAllDown" o.retriesAllDown properties
  let idle ← property Text.word64? "validConnectionTimeout" o.validConnectionTimeoutSec properties
  let blacklist ←
    property Text.word64? "loadBalanceBlacklistTimeout" o.blacklistTimeoutSec properties
  return {
    autoReconnect := (properties.lookup "autoReconnect").any isTrue
    initialTimeoutSec := initialTimeout
    maxReconnects := maxReconnects
    secondsBeforeRetryMaster := seconds
    queriesBeforeRetryMaster := queries
    retriesAllDown := retries
    validConnectionTimeoutSec := idle
    blacklistTimeoutSec := blacklist }

end Options
end Failover
