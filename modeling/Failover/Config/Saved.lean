import Failover.Config
import Failover.Toml.Document

/-! The saved form of a configuration: a TOML text, and what is read from one. -/
namespace Failover.Config
open Toml (Value Line Entries)

/-- The fields of a record. Besides a table it may be written as an array of its fields in order,
where fields at the end may be left out and items behind the last field count for nothing; a date
has none of the fields. -/
def fields (names : List String) : Value → Option (List (Option Value))
  | .table _ entries => some (names.map fun name => entries.lookup name)
  | .array items => some ((List.range names.length).map fun i => items[i]?)
  | .tables items =>
    some ((List.range names.length).map fun i => items[i]?.map (Value.table .header))
  | .datetime => some (names.map fun _ => none)
  | _ => none

def optional {α : Type} (read : Value → Option α) (fallback : α) : Option Value → Option α
  | none => some fallback
  | some v => read v

def required {α : Type} (read : Value → Option α) : Option Value → Option α
  | none => none
  | some v => read v

def readString : Value → Option String
  | .string s => some s
  | _ => none

def readBool : Value → Option Bool
  | .boolean b => some b
  | _ => none

def readBelow (bound : Nat) : Value → Option Nat
  | .integer n => if 0 ≤ n ∧ n < bound then some n.toNat else none
  | _ => none

def readPort (v : Value) : Option UInt16 := (readBelow UInt16.size v).map UInt16.ofNat

def readWord32 (v : Value) : Option UInt32 := (readBelow UInt32.size v).map UInt32.ofNat

def readWord64 (v : Value) : Option UInt64 := (readBelow UInt64.size v).map UInt64.ofNat

def isNothing : Value → Bool
  | .array items => items.isEmpty
  | .tables items => items.isEmpty
  | .table _ entries => entries.isEmpty
  | _ => false

def choice : Value → Option String
  | .string s => some s
  | .table _ [(name, v)] => if isNothing v then some name else none
  | _ => none

def readMode (v : Value) : Option Mode := choice v >>= Mode.ofText?

def readRole (v : Value) : Option Role := choice v >>= Role.ofText?

def readHost (v : Value) : Option Host := do
  match ← fields ["host", "port", "role"] v with
  | [name, port, role] =>
    return {
      endpoint := ⟨← required readString name, ← required readPort port⟩
      role := ← optional readRole .unset role }
  | _ => none

def readHosts : Value → Option (List Host)
  | .array items => items.mapM readHost
  | .tables items => items.mapM fun t => readHost (.table .header t)
  | _ => none

def optionNames : List String :=
  ["auto_reconnect", "initial_timeout_sec", "max_reconnects", "seconds_before_retry_master",
    "queries_before_retry_master", "retries_all_down", "valid_connection_timeout_sec",
    "blacklist_timeout_sec"]

def readOptions (v : Value) : Option Options := do
  let d : Options := {}
  match ← fields optionNames v with
  | [auto, initial, reconnects, seconds, queries, retries, idle, blacklist] =>
    return {
      autoReconnect := ← optional readBool d.autoReconnect auto
      initialTimeoutSec := ← optional readWord64 d.initialTimeoutSec initial
      maxReconnects := ← optional readWord32 d.maxReconnects reconnects
      secondsBeforeRetryMaster := ← optional readWord64 d.secondsBeforeRetryMaster seconds
      queriesBeforeRetryMaster := ← optional readWord32 d.queriesBeforeRetryMaster queries
      retriesAllDown := ← optional readWord32 d.retriesAllDown retries
      validConnectionTimeoutSec := ← optional readWord64 d.validConnectionTimeoutSec idle
      blacklistTimeoutSec := ← optional readWord64 d.blacklistTimeoutSec blacklist }
  | _ => none

def readTopology (v : Value) : Option (Mode × UInt64 × List Host) := do
  match ← fields ["mode", "connect_timeout_ms", "hosts"] v with
  | [mode, timeout, hosts] =>
    return (← required readMode mode, ← optional readWord64 5000 timeout,
      ← required readHosts hosts)
  | _ => none

def readLogging (v : Value) : Option (String × String) := do
  match ← fields ["level", "format"] v with
  | [level, format] => return (← required readString level, ← required readString format)
  | _ => none

/-- The configuration that a table holds. Keys that mean nothing are passed over. -/
def ofEntries? (entries : Entries) : Option Config := do
  let (mode, timeout, hosts) ← required readTopology (entries.lookup "topology")
  let failover ← optional readOptions {} (entries.lookup "failover")
  let (level, format) ← required readLogging (entries.lookup "logging")
  return {
    mode, hosts, failover
    connectTimeoutMs := timeout
    logLevel := level
    logFormat := format }

inductive LoadFlaw where
  /-- It is no TOML, or lacks something. -/
  | malformed
  | invalid (f : Flaw)
  deriving DecidableEq

def LoadFlaw.error : LoadFlaw → ConfigError
  | .malformed => .parse "the text is no configuration"
  | .invalid f => .validation f.message

def load (text : String) : Except LoadFlaw Config :=
  match Toml.parse? text >>= ofEntries? with
  | none => .error .malformed
  | some c => c.validate.mapError .invalid

def pair (key : String) (v : Value) : Line := .pair [key] v

def number (n : Nat) : Value := .integer n

def hostLines (h : Host) : List Line :=
  [.tables ["topology", "hosts"], pair "host" (.string h.endpoint.name),
    pair "port" (number h.endpoint.port.toNat), pair "role" (.string h.role.text)]

def optionLines (o : Options) : List Line :=
  [.table ["failover"], pair "auto_reconnect" (.boolean o.autoReconnect),
    pair "initial_timeout_sec" (number o.initialTimeoutSec.toNat),
    pair "max_reconnects" (number o.maxReconnects.toNat),
    pair "seconds_before_retry_master" (number o.secondsBeforeRetryMaster.toNat),
    pair "queries_before_retry_master" (number o.queriesBeforeRetryMaster.toNat),
    pair "retries_all_down" (number o.retriesAllDown.toNat),
    pair "valid_connection_timeout_sec" (number o.validConnectionTimeoutSec.toNat),
    pair "blacklist_timeout_sec" (number o.blacklistTimeoutSec.toNat)]

/-- The lines of a saved configuration. Each host has a table of its own; without hosts their array
is empty. -/
def lines (c : Config) : List Line :=
  [.table ["topology"], pair "mode" (.string c.mode.text),
    pair "connect_timeout_ms" (number c.connectTimeoutMs.toNat)] ++
  (if c.hosts.isEmpty then [pair "hosts" (.array [])] else c.hosts.flatMap hostLines) ++
  optionLines c.failover ++
  [.table ["logging"], pair "level" (.string c.logLevel), pair "format" (.string c.logFormat)]

def longNumbers (c : Config) : List UInt64 :=
  [c.connectTimeoutMs, c.failover.initialTimeoutSec, c.failover.secondsBeforeRetryMaster,
    c.failover.validConnectionTimeoutSec, c.failover.blacklistTimeoutSec]

def tooLong : String := "a number is too large"

def save? (c : Config) : Option String :=
  if c.longNumbers.all fun n => Toml.inRange n.toNat then some (Toml.write c.lines) else none

end Failover.Config
