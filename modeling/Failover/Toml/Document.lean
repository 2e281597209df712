import Failover.Toml.Value

/-!
TOML texts as lists of lines that matter: pairs and headers. Reading is scanning a text into such
lines and then building the table they describe; writing lays them out again.
-/
namespace Failover.Toml

inductive Line where
  | pair (key : List String) (v : Value)
  | table (path : List String)
  | tables (path : List String)

def endOfLine? (s : List Char) : Option (List Char) :=
  let s := match skipGaps s with
    | '#' :: r => r.dropWhile isPlain
    | s => s
  if s.isEmpty then some [] else newline? s

/-- The line at the start of a text that has one, behind gaps. -/
def readLine (s : List Char) : Option (Line × List Char) := do
  match s with
  | '[' :: '[' :: r =>
    let (path, r) ← readKey r
    match r with
    | ']' :: ']' :: r => (endOfLine? r).map (.tables path, ·)
    | _ => none
  | '[' :: r =>
    let (path, r) ← readKey r
    match r with
    | ']' :: r => (endOfLine? r).map (.table path, ·)
    | _ => none
  | _ =>
    let (key, s) ← readKey s
    match s with
    | '=' :: r =>
      let (v, r) ← value? (skipGaps r)
      (endOfLine? r).map (.pair key v, ·)
    | _ => none

def scanLines : Nat → List Char → Option (List Line)
  | 0, _ => none
  | n + 1, s =>
    let s := skipGaps s
    if s.isEmpty then some []
    else if s.head? == some '#' || (newline? s).isSome then do
      scanLines n (← endOfLine? s)
    else do
      let (line, s) ← readLine s
      let lines ← scanLines n s
      some (line :: lines)

/-- The lines of a text, which may begin with a byte order mark. -/
def scan (text : List Char) : Option (List Line) :=
  let s := match text with
    | '\ufeff' :: r => r
    | s => s
  scanLines (s.length + 1) s

/-- What has been built so far, and the table that pairs are added to. -/
structure Draft where
  root : Entries := []
  current : List String := []

/-- Opens a table by its header. It may be known from the paths of other headers, but not
defined. -/
def openTable (key : String) (_ : Origin) (entries : Entries) : Option Entries :=
  entries.alter key fun
    | none => some (.table .header [])
    | some (.table .implied sub) => some (.table .header sub)
    | some _ => none

def openItem (key : String) (_ : Origin) (entries : Entries) : Option Entries :=
  entries.alter key fun
    | none => some (.tables [[]])
    | some (.tables items) => some (.tables (items ++ [[]]))
    | some _ => none

def Draft.add (d : Draft) : Line → Option Draft
  | .pair key v => do
    let (path, name) ← splitKey key
    let root ← d.root.within false (Entries.assign path name v) d.current .header
    some { d with root }
  | .table path => do
    let (parent, name) ← splitKey path
    let root ← d.root.within false (openTable name) parent .header
    some ⟨root, path⟩
  | .tables path => do
    let (parent, name) ← splitKey path
    let root ← d.root.within false (openItem name) parent .header
    some ⟨root, path⟩

def build (lines : List Line) : Option Entries :=
  (lines.foldlM Draft.add {}).map Draft.root

def parse? (text : String) : Option Entries := scan text.toList >>= build

def Value.text : Value → List Char
  | .string s => writeString s.toList
  | .integer n => (toString n).toList
  | .boolean b => (if b then "true" else "false").toList
  | _ => "[]".toList

def joinKey (key : List String) : List Char := (".".intercalate key).toList

/-- A line with its line break. A header has an empty line before it unless it comes first. -/
def Line.text (first : Bool) : Line → List Char
  | .pair key v => joinKey key ++ " = ".toList ++ v.text ++ ['\n']
  | .table path =>
    (if first then [] else ['\n']) ++ ['['] ++ joinKey path ++ [']', '\n']
  | .tables path =>
    (if first then [] else ['\n']) ++ ['[', '['] ++ joinKey path ++ [']', ']', '\n']

def write : List Line → String
  | [] => ""
  | line :: lines => String.ofList (line.text true ++ lines.flatMap (Line.text false))

end Failover.Toml
