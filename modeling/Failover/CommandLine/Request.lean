import Failover.Arguments.Help
import Failover.Text.Numeral

/-! The commands of the program: how each is called, its help page, and what arguments ask for. -/
namespace Failover

inductive Command where
  /-- Connects by a configuration, perhaps to other hosts, and watches for some seconds. -/
  | probe (config : String) (hosts : Option String) (watch : UInt64)
  /-- Writes an example for a mode. -/
  | config (mode output : String)
  | validate (config : String)
  | version
  deriving DecidableEq

namespace CommandLine

def program : String := "relevo"

def release : String := "0.1.0"

def about : String := "Client-side failover engine for MariaDB/MySQL style database topologies"

structure Form where
  name : String
  about : String
  parameters : List Parameter := []
  command? : Given → Option Command

def isPath (s : String) : Bool := !s.isEmpty

def probeForm : Form where
  name := "probe"
  about := "Open a failover session against a topology and report what was found"
  parameters := [
    { word := "config", letter := some 'c', help := "Path to configuration file"
      fallback := some "config/dev.toml", accepts := isPath },
    { word := "hosts", help := "Comma-separated host list overriding the configured one" },
    { word := "watch", letter := some 'w', fallback := some "0"
      help := "Keep the session open and report its status every second for this many seconds"
      accepts := fun s => (Text.word64? s.toList).isSome }]
  command? given := do
    let watch ← Text.word64? ((given.lookup "watch").getD "0").toList
    return .probe ((given.lookup "config").getD "config/dev.toml") (given.lookup "hosts") watch

def configForm : Form where
  name := "config"
  about := "Generate example configuration files"
  parameters := [
    { word := "mode", letter := some 'm', needed := true
      help := "HA mode (master-only, replication or aurora)" },
    { word := "output", letter := some 'o', help := "Output file path", needed := true
      accepts := isPath }]
  command? given := do return .config (← given.lookup "mode") (← given.lookup "output")

def validateForm : Form where
  name := "validate"
  about := "Validate configuration file"
  parameters := [
    { word := "config", letter := some 'c', help := "Path to configuration file to validate"
      needed := true, accepts := isPath }]
  command? given := do return .validate (← given.lookup "config")

def versionForm : Form where
  name := "version"
  about := "Show version information"
  command? _ := some .version

def forms : List Form := [probeForm, configForm, validateForm, versionForm]

def helpAbout : String := "Print this message or the help of the given subcommand(s)"

def Form.page (f : Form) : String :=
  Help.page f.about (Help.call (program ++ " " ++ f.name) f.parameters)
    [("Options", f.parameters.map Help.row ++ [Help.ownRow])]

def overview : String :=
  Help.page about (program ++ " <COMMAND>") [
    ("Commands", forms.map (fun f => (f.name, f.about)) ++ [("help", helpAbout)]),
    ("Options", [Help.ownRow, (Help.flag (some 'V') "version", "Print version")])]

def helpPage : String :=
  Help.page helpAbout (program ++ " help [COMMAND]...")
    [("Arguments", [("[COMMAND]...", "Print help for the subcommand(s)")])]

inductive Request where
  | run (c : Command)
  | page (text : String)
  | misuse
  deriving DecidableEq

def help : List String → Request
  | [] => .page overview
  | ["help"] => .page helpPage
  | [name] => (forms.find? (·.name == name)).elim .misuse fun f => .page f.page
  | _ => .misuse

def leading : List Char → Request
  | '-' :: 'h' :: _ => .page overview
  | '-' :: 'V' :: _ => .page (program ++ " " ++ release ++ "\n")
  | '-' :: '-' :: cs =>
    match String.ofList cs with
    | "help" => .page overview
    | "version" => .page (program ++ " " ++ release ++ "\n")
    | _ => .misuse
  | _ => .misuse

def request : List String → Request
  | [] => .misuse
  | "help" :: topics => help topics
  | arg :: args =>
    match forms.find? (·.name == arg) with
    | none => leading arg.toList
    | some f =>
      match Arguments.scan f.parameters [] args with
      | .error .help => .page f.page
      | .error .misuse => .misuse
      | .ok given => (f.command? given).elim .misuse .run

end CommandLine

end Failover
