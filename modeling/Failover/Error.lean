/-! What can go wrong for a session and for a configuration, how it reads, and how grave it is. -/
namespace Failover

structure Needs where
  primary : Bool
  replica : Bool
  deriving DecidableEq

def Needs.text : Needs → String
  | ⟨true, true⟩ => "primary and replica"
  | ⟨true, false⟩ => "primary"
  | ⟨false, true⟩ => "replica"
  | ⟨false, false⟩ => "no role"

inductive ConfigError where
  | io (message : String)
  | parse (message : String)
  | serialize (message : String)
  | validation (message : String)
  deriving DecidableEq

def ConfigError.message : ConfigError → String
  | .io m => "IO error: " ++ m
  | .parse m => "Parse error: " ++ m
  | .serialize m => "Serialize error: " ++ m
  | .validation m => "Validation error: " ++ m

inductive Error where
  /-- The connection to a host is gone. -/
  | connectivity (host message : String)
  /-- The server refused a statement over a sound connection. -/
  | query (message : String)
  /-- No candidate serves the missing roles. -/
  | noHostFound (missing : Needs)
  /-- Routing may not change while a transaction is open. -/
  | inTransaction
  /-- The reconnection budget is spent. -/
  | tooManyAttempts (attempts : UInt32)
  | noPrimaryAvailable
  | config (cause : ConfigError)
  | io (message : String)
  deriving DecidableEq

inductive Severity where
  | critical
  | error
  | warning
  | info
  deriving DecidableEq

def Severity.text : Severity → String
  | .critical => "CRITICAL"
  | .error => "ERROR"
  | .warning => "WARNING"
  | .info => "INFO"

namespace Error

def message : Error → String
  | connectivity host m => "Connectivity error on " ++ host ++ ": " ++ m
  | query m => "Query error: " ++ m
  | noHostFound missing => "No active connection found for " ++ missing.text
  | inTransaction => "Trying to change read-only mode during a transaction"
  | tooManyAttempts n => "Too many reconnection attempts (" ++ toString n.toNat ++ ")"
  | noPrimaryAvailable => "No primary host is actually connected"
  | config cause => "Configuration error: " ++ cause.message
  | io m => "I/O error: " ++ m

def isConnectivity : Error → Bool
  | connectivity .. | io _ => true
  | _ => false

def isRecoverable : Error → Bool
  | connectivity .. | io _ | noHostFound _ | noPrimaryAvailable => true
  | _ => false

def severity : Error → Severity
  | config _ | tooManyAttempts _ => .critical
  | connectivity .. | io _ | noHostFound _ | noPrimaryAvailable => .warning
  | inTransaction => .info
  | query _ => .error

end Error
end Failover
