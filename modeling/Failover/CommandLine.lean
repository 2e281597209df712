import Failover.CommandLine.Request
import Failover.Config.Saved
import Failover.FileTask
import Failover.HostList
import Failover.Text.Quoted

/-! The commands at work: writing an example of a configuration, checking one, and probing the hosts
that one names. -/
namespace Failover.CommandLine

def setIn (s : String) : String :=
  "    " ++ "\n    ".intercalate (s.splitOn "\n")

def report (attempt cause : String) : String :=
  "Error: " ++ attempt ++ "\n\nCaused by:\n" ++ setIn cause ++ "\n"

def lines (ls : List String) : String := String.join (ls.map (· ++ "\n"))

def loaded : Except String String → Except ConfigError Config
  | .error e => .error (.io e)
  | .ok text => (Config.load text).mapError Config.LoadFlaw.error

def summary (c : Config) : List String :=
  let hosts := c.topology.hosts
  ["✓ Configuration file is valid", "  HA mode: " ++ c.mode.text,
    "  Connect timeout: " ++ toString c.connectTimeoutMs.toNat ++ "ms",
    "  Candidate hosts: " ++ toString hosts.length ++ " instances"] ++
  hosts.mapIdx (fun i h =>
    "    " ++ toString (i + 1) ++ ": " ++ h.endpoint.text ++ " (" ++ h.role.text ++ ")") ++
  ["  Auto reconnect: " ++ toString c.failover.autoReconnect,
    "  Retry primary after: " ++ toString c.failover.secondsBeforeRetryMaster.toNat ++ "s or " ++
      toString c.failover.queriesBeforeRetryMaster.toNat ++ " queries",
    "  Blacklist timeout: " ++ toString c.failover.blacklistTimeoutSec.toNat ++ "s"]

def validate (path : String) : FileTask :=
  let first := "Validating configuration file: " ++ Text.quoted path
  .read path fun content => .answer <|
    match loaded content with
    | .ok c => { out := lines (first :: summary c) }
    | .error e => {
        code := 1
        out := lines [first]
        err := lines ["✗ Configuration file validation failed:", "  " ++ e.message,
          "Error: " ++ e.message] }

def writeExample (mode path : String) : FileTask :=
  let first := "Generating " ++ mode ++ " configuration file: " ++ Text.quoted path
  let failed (e : ConfigError) : FileTask :=
    .answer { code := 1, out := lines [first], err := report "Failed to generate config" e.message }
  match Config.example? mode with
  | none => failed (.validation Config.unknownMode)
  | some c =>
    match c.save? with
    | none => failed (.serialize Config.tooLong)
    | some text => .write path text fun written =>
      match written with
      | .error e => failed (.io e)
      | .ok () => .answer { out := lines [first, "Configuration file generated successfully!",
          "Edit the file to match your environment and run:",
          "  " ++ program ++ " probe --config " ++ Text.quoted path] }

def unreachable (c : Config) : Error := .noHostFound ⟨true, c.mode.hasReplicas⟩

/-- Reads the configuration and the hosts that stand in for its own. What the network would answer
is not known here. -/
def probe (path : String) (hosts : Option String) : FileTask :=
  let failed (attempt cause : String) : Printout := { code := 1, err := report attempt cause }
  .read path fun content => .answer <|
    match loaded content with
    | .error e => failed ("Failed to load config from " ++ Text.quoted path) e.message
    | .ok c =>
      match hosts.elim (.ok c.hosts) HostList.parse with
      | .error f => failed "Invalid --hosts" (ConfigError.parse f.message).message
      | .ok hosts => failed "Failed to open a failover session"
          (unreachable (c.withHosts hosts)).message

def banner : List String :=
  [program ++ " v" ++ release, about, "", "Features:",
    "  • Master-only failover across multi-primary clusters",
    "  • Primary/replica read-write splitting with transparent failover",
    "  • Aurora-style live role discovery", "  • Process-wide host blacklist"]

def Request.task : Request → FileTask
  | .run (.probe config hosts _) => probe config hosts
  | .run (.config mode output) => writeExample mode output
  | .run (.validate config) => validate config
  | .run .version => .answer { out := lines banner }
  | .page text => .answer { out := text }
  | .misuse => .answer {
      code := 2
      err := lines ["error: the arguments make no command", "",
        "For more information, try '--help'."] }

end Failover.CommandLine
