import Failover.Error
import Failover.Host
import Failover.Options

/-! A configuration, the rules it must meet, and the examples that are handed out. -/
namespace Failover

structure Config where
  mode : Mode := .replication
  connectTimeoutMs : UInt64 := 5000
  /-- The candidates with their declared roles. -/
  hosts : List Host := [⟨⟨"127.0.0.1", 3306⟩, .primary⟩, ⟨⟨"127.0.0.1", 3307⟩, .replica⟩]
  failover : Options := {}
  logLevel : String := "info"
  logFormat : String := "text"
  deriving DecidableEq

namespace Config

inductive Flaw where
  | noHosts
  | emptyName
  | port (name : String)
  | connectTimeout
  | noPrimary
  | options (cause : Options.Flaw)
  | logLevel (level : String)
  | logFormat (format : String)
  deriving DecidableEq

def Flaw.message : Flaw → String
  | .noHosts => "topology hosts cannot be empty"
  | .emptyName => "host name cannot be empty"
  | .port name => "Invalid port for host " ++ name
  | .connectTimeout => "connect_timeout_ms must be greater than 0"
  | .noPrimary => "replication topology needs at least one host able to act as primary"
  | .options cause => cause.message
  | .logLevel level => "Invalid log level: " ++ level
  | .logFormat format => "Invalid log format: " ++ format

def topology (c : Config) : Topology := .ofHosts c.mode c.hosts

def hostFlaw? (h : Host) : Option Flaw :=
  if (Text.trim h.endpoint.name.toList).isEmpty then some .emptyName
  else if h.endpoint.port = 0 then some (.port h.endpoint.name)
  else none

def flaw? (c : Config) : Option Flaw :=
  if c.hosts.isEmpty then some .noHosts
  else (c.hosts.findSome? hostFlaw?).or <|
    if c.connectTimeoutMs = 0 then some .connectTimeout
    else if c.mode = .replication ∧ c.topology.hosts.any Host.mayBePrimary = false then
      some .noPrimary
    else (c.failover.flaw?.map Flaw.options).or <|
      if c.logLevel ∉ ["error", "warn", "info", "debug", "trace"] then some (.logLevel c.logLevel)
      else if c.logFormat ∉ ["json", "text"] then some (.logFormat c.logFormat)
      else none

def validate (c : Config) : Except Flaw Config :=
  match c.flaw? with
  | some f => .error f
  | none => .ok c

def withHosts (c : Config) (hosts : List Host) : Config := { c with hosts }

def unknownMode : String := "Mode must be 'master-only', 'replication' or 'aurora'"

def exampleHosts : Mode → List Host
  | .masterOnly =>
    [⟨⟨"10.0.1.10", 3306⟩, .primary⟩, ⟨⟨"10.0.1.11", 3306⟩, .primary⟩,
      ⟨⟨"10.0.1.12", 3306⟩, .primary⟩]
  | .replication =>
    [⟨⟨"10.0.1.20", 3306⟩, .primary⟩, ⟨⟨"10.0.1.21", 3306⟩, .replica⟩,
      ⟨⟨"10.0.1.22", 3306⟩, .replica⟩]
  | .aurora =>
    [⟨⟨"cluster-a.example.com", 3306⟩, .unset⟩, ⟨⟨"cluster-b.example.com", 3306⟩, .unset⟩]

def example? (mode : String) : Option Config :=
  (Mode.ofText? mode).map fun m => { mode := m, hosts := exampleHosts m }

end Config
end Failover
