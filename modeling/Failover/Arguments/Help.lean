import Failover.Arguments
import Failover.Text.Wrapped

/-! Help pages: what a program or a command is for, how it is called, and a table of its parts. -/
namespace Failover.Help

def pageWidth : Nat := 100

def table (rows : List (String × String)) : List String :=
  let left := (rows.map (·.1.length)).foldl max 0
  rows.flatMap fun (name, text) =>
    match Text.wrapped (pageWidth - (left + 4)) text with
    | [] => []
    | first :: rest =>
      ("  " ++ name.pushn ' ' (left - name.length) ++ "  " ++ first) ::
        rest.map ("".pushn ' ' (left + 4) ++ ·)

def flag (letter : Option Char) (word : String) : String :=
  match letter with
  | some c => "-" ++ c.toString ++ ", --" ++ word
  | none => "    --" ++ word

def usage (p : Parameter) : String :=
  p.word ++ " <" ++ p.word.map Char.toUpper ++ ">"

def row (p : Parameter) : String × String :=
  let fallback := match p.fallback with
    | some text => " [default: " ++ text ++ "]"
    | none => ""
  (flag p.letter (usage p), p.help ++ fallback)

def ownRow : String × String := (flag (some 'h') "help", "Print help")

def section? (title : String) (rows : List (String × String)) : List String :=
  if rows.isEmpty then [] else "" :: (title ++ ":") :: table rows

def page (about call : String) (sections : List (String × List (String × String))) : String :=
  let lines := [about, "", "Usage: " ++ call] ++ sections.flatMap fun (t, rows) => section? t rows
  String.join (lines.map (· ++ "\n"))

def call (name : String) (parameters : List Parameter) : String :=
  name ++ (if parameters.all (·.needed) then "" else " [OPTIONS]") ++
    String.join ((parameters.filter (·.needed)).map fun p => " --" ++ usage p)

end Failover.Help
