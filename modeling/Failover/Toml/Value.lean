import Failover.Toml.Number

/-! Values of a TOML text and how they are read. -/
namespace Failover.Toml

/-- How a table came about, which decides what may still be added to it. -/
inductive Origin where
  /-- In braces; it is complete. -/
  | inline
  /-- By its own header. -/
  | header
  /-- As a part of the path of a header. -/
  | implied
  /-- As a part of a dotted key. -/
  | dotted
  deriving DecidableEq

inductive Value where
  | string (s : String)
  | integer (n : Int)
  | float
  | boolean (b : Bool)
  | datetime
  | array (items : List Value)
  | table (origin : Origin) (entries : List (String × Value))
  /-- The tables of an array that headers in double brackets build up. -/
  | tables (items : List (List (String × Value)))

abbrev Entries := List (String × Value)

namespace Entries

def alter (key : String) (f : Option Value → Option Value) : Entries → Option Entries
  | [] => (f none).map fun v => [(key, v)]
  | x :: xs =>
    if x.1 = key then (f (some x.2)).map fun v => (key, v) :: xs
    else (alter key f xs).map (x :: ·)

/-- Changes the table at the end of a path. Missing tables are made on the way. A dotted key leads
through tables that no header defines; nothing leads into a table in braces. -/
def within (dotted : Bool) (f : Origin → Entries → Option Entries) :
    List String → Origin → Entries → Option Entries
  | [], origin, entries => f origin entries
  | key :: path, _, entries =>
    let fresh : Origin := if dotted then .dotted else .implied
    alter key (fun
      | none => (within dotted f path fresh []).map (.table fresh)
      | some (.table origin sub) =>
        if origin = .inline ∨ (dotted = true ∧ origin = .header) then none
        else (within dotted f path origin sub).map (.table origin)
      | some (.tables items) =>
        match items.getLast? with
        | none => none
        | some last =>
          (within dotted f path .header last).map fun t => .tables (items.dropLast ++ [t])
      | some _ => none) entries

/-- Gives a key its value. The key must be new, and a dotted key must end in a table that dotted
keys made. -/
def assign (path : List String) (key : String) (v : Value) (origin : Origin) (entries : Entries) :
    Option Entries :=
  within true (fun origin entries =>
    if path ≠ [] ∧ origin ≠ .dotted then none
    else alter key (fun | none => some v | some _ => none) entries) path origin entries

end Entries

def isBare (c : Char) : Bool := c.isAlphanum || c == '-' || c == '_'

def readSimpleKey : List Char → Option (String × List Char)
  | '"' :: r => (readBasic r).map fun (k, r) => (String.ofList k, r)
  | '\'' :: r => (readLiteral r).map fun (k, r) => (String.ofList k, r)
  | s =>
    let k := s.takeWhile isBare
    if k.isEmpty then none else some (String.ofList k, s.dropWhile isBare)

def readKeyParts : Nat → List Char → Option (List String × List Char)
  | 0, _ => none
  | n + 1, s => do
    let (k, s) ← readSimpleKey (skipGaps s)
    match skipGaps s with
    | '.' :: r =>
      let (ks, r) ← readKeyParts n r
      some (k :: ks, r)
    | s => some ([k], s)

def maxDepth : Nat := 79

def readKey (s : List Char) : Option (List String × List Char) := readKeyParts maxDepth s

/-- Skips gaps, line breaks and comments; `inComment` says that a comment has begun. -/
def skipTrivia (inComment : Bool) : List Char → Option (List Char)
  | '\n' :: r => skipTrivia false r
  | '\r' :: '\n' :: r => skipTrivia false r
  | c :: r =>
    if inComment then if isPlain c then skipTrivia true r else none
    else if c == '#' then skipTrivia true r
    else if isGap c then skipTrivia false r
    else some (c :: r)
  | [] => some []

def Quantity.value : Quantity → Value
  | .integer n => .integer n
  | .float => .float
  | .datetime => .datetime

def splitKey (key : List String) : Option (List String × String) :=
  key.getLast?.map (key.dropLast, ·)

mutual

/-- A value. The first number bounds the calls, the second the nesting. -/
def readValue : Nat → Nat → List Char → Option (Value × List Char)
  | 0, _, _ => none
  | n + 1, depth, s =>
    match s with
    | '"' :: _ | '\'' :: _ => (readString s).map fun (x, r) => (.string (String.ofList x), r)
    | '[' :: r =>
      match depth with
      | 0 => none
      | depth + 1 => (readItems n depth r).map fun (vs, r) => (.array vs, r)
    | '{' :: r =>
      match depth with
      | 0 => none
      | depth + 1 =>
        match skipGaps r with
        | '}' :: r => some (.table .inline [], r)
        | _ => (readPairs n depth [] r).map fun (es, r) => (.table .inline es, r)
    | 't' :: 'r' :: 'u' :: 'e' :: r => some (.boolean true, r)
    | 'f' :: 'a' :: 'l' :: 's' :: 'e' :: r => some (.boolean false, r)
    | _ => (readQuantity s).map fun (q, r) => (q.value, r)

/-- The items of an array and its closing bracket, behind the opening one or a comma. -/
def readItems : Nat → Nat → List Char → Option (List Value × List Char)
  | 0, _, _ => none
  | n + 1, depth, s => do
    match ← skipTrivia false s with
    | ']' :: r => some ([], r)
    | s =>
      let (v, s) ← readValue n depth s
      match ← skipTrivia false s with
      | ',' :: r =>
        let (vs, r) ← readItems n depth r
        some (v :: vs, r)
      | ']' :: r => some ([v], r)
      | _ => none

/-- The pairs of a table in braces and the closing one, behind the opening one or a comma, added to
the pairs before them. -/
def readPairs : Nat → Nat → Entries → List Char → Option (Entries × List Char)
  | 0, _, _, _ => none
  | n + 1, depth, entries, s => do
    let (key, s) ← readKey s
    match s with
    | '=' :: r =>
      let (v, s) ← readValue n depth (skipGaps r)
      let (path, name) ← splitKey key
      let entries ← entries.assign path name v .inline
      match skipGaps s with
      | ',' :: r => readPairs n depth entries r
      | '}' :: r => some (entries, r)
      | _ => none
    | _ => none

end

def value? (s : List Char) : Option (Value × List Char) := readValue (2 * s.length + 2) maxDepth s

end Failover.Toml
