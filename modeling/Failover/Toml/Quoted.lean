/-!
Strings of a TOML text. Reading takes the four quoted forms; writing picks the first of them that
needs no escapes, in a fixed order of preference.
-/
namespace Failover.Toml

def isPlain (c : Char) : Bool := c == '\t' || (0x20 ≤ c.toNat && c.toNat != 0x7f)

def isGap (c : Char) : Bool := c == ' ' || c == '\t'

def skipGaps (s : List Char) : List Char := s.dropWhile isGap

def newline? : List Char → Option (List Char)
  | '\n' :: r => some r
  | '\r' :: '\n' :: r => some r
  | _ => none

def hexDigit? (c : Char) : Option Nat :=
  if '0' ≤ c ∧ c ≤ '9' then some (c.toNat - 48)
  else if 'a' ≤ c ∧ c ≤ 'f' then some (c.toNat - 87)
  else if 'A' ≤ c ∧ c ≤ 'F' then some (c.toNat - 55)
  else none

def charOfHex? (digits : List Char) : Option Char := do
  let n ← digits.foldlM (fun n c => (hexDigit? c).map (16 * n + ·)) 0
  if n.isValidChar then some (Char.ofNat n) else none

def charOfEscape? : Char → Option Char
  | 'b' => some '\x08'
  | 't' => some '\t'
  | 'n' => some '\n'
  | 'f' => some '\x0c'
  | 'r' => some '\r'
  | '"' => some '"'
  | '\\' => some '\\'
  | _ => none

/-- A string in double quotes, behind the opening one. -/
def readBasic : List Char → Option (List Char × List Char)
  | '"' :: r => some ([], r)
  | '\\' :: 'u' :: a :: b :: c :: d :: r => do
    let x ← charOfHex? [a, b, c, d]
    let (xs, r) ← readBasic r
    some (x :: xs, r)
  | '\\' :: 'U' :: a :: b :: c :: d :: e :: f :: g :: h :: r => do
    let x ← charOfHex? [a, b, c, d, e, f, g, h]
    let (xs, r) ← readBasic r
    some (x :: xs, r)
  | '\\' :: e :: r => do
    let x ← charOfEscape? e
    let (xs, r) ← readBasic r
    some (x :: xs, r)
  | c :: r => do
    if isPlain c && c != '\\' then
      let (xs, r) ← readBasic r
      some (c :: xs, r)
    else none
  | [] => none

/-- A string in single quotes, behind the opening one: every character stands for itself. -/
def readLiteral : List Char → Option (List Char × List Char)
  | '\'' :: r => some ([], r)
  | c :: r => do
    if isPlain c then
      let (xs, r) ← readLiteral r
      some (c :: xs, r)
    else none
  | [] => none

def endsLine (s : List Char) : Bool := (newline? (skipGaps s)).isSome

/-- The characters of a string in three double quotes. After a backslash at the end of a line all
gaps and line breaks are skipped, which is what `skipping` remembers. Up to two quotes may stand
right before the three that end the string. -/
def readLong (skipping : Bool) : List Char → Option (List Char × List Char)
  | '"' :: '"' :: '"' :: '"' :: '"' :: r => some (['"', '"'], r)
  | '"' :: '"' :: '"' :: '"' :: r => some (['"'], r)
  | '"' :: '"' :: '"' :: r => some ([], r)
  | '\r' :: '\n' :: r => do
    let (xs, r) ← readLong skipping r
    some (if skipping then xs else '\n' :: xs, r)
  | '\\' :: 'u' :: a :: b :: c :: d :: r => do
    let x ← charOfHex? [a, b, c, d]
    let (xs, r) ← readLong false r
    some (x :: xs, r)
  | '\\' :: 'U' :: a :: b :: c :: d :: e :: f :: g :: h :: r => do
    let x ← charOfHex? [a, b, c, d, e, f, g, h]
    let (xs, r) ← readLong false r
    some (x :: xs, r)
  | '\\' :: e :: r => do
    match charOfEscape? e with
    | some x =>
      let (xs, r) ← readLong false r
      some (x :: xs, r)
    | none => if endsLine (e :: r) then readLong true (e :: r) else none
  | c :: r => do
    if c == '\n' || isPlain c && c != '\\' then
      if skipping && (c == '\n' || isGap c) then readLong true r
      else
        let (xs, r) ← readLong false r
        some (c :: xs, r)
    else none
  | [] => none

/-- The characters of a string in three single quotes. -/
def readLongLiteral : List Char → Option (List Char × List Char)
  | '\'' :: '\'' :: '\'' :: '\'' :: '\'' :: r => some (['\'', '\''], r)
  | '\'' :: '\'' :: '\'' :: '\'' :: r => some (['\''], r)
  | '\'' :: '\'' :: '\'' :: r => some ([], r)
  | '\r' :: '\n' :: r => do
    let (xs, r) ← readLongLiteral r
    some ('\n' :: xs, r)
  | c :: r => do
    if c == '\n' || isPlain c then
      let (xs, r) ← readLongLiteral r
      some (c :: xs, r)
    else none
  | [] => none

/-- A string in any of the four forms. A line break right behind three opening quotes is no part of
the string. -/
def readString : List Char → Option (List Char × List Char)
  | '"' :: '"' :: '"' :: r => readLong false ((newline? r).getD r)
  | '"' :: r => readBasic r
  | '\'' :: '\'' :: '\'' :: r => readLongLiteral ((newline? r).getD r)
  | '\'' :: r => readLiteral r
  | _ => none

inductive Style where
  | basic
  | literal
  | longBasic
  | longLiteral
  deriving DecidableEq

def needsEscape (c : Char) : Bool :=
  (c.toNat ≤ 0x1f && c != '\t' && c != '\n') || c.toNat == 0x7f

def longestRun (x : Char) : Nat → List Char → Nat
  | run, [] => run
  | run, c :: cs => if c = x then longestRun x (run + 1) cs else max run (longestRun x 0 cs)

/-- The first of basic, literal, long basic and long literal in which nothing has to be escaped;
where there is none, a basic form with escapes, long if the string has more than one line. -/
def styleOf (s : List Char) : Style :=
  let escapes := s.any needsEscape
  let backslash := s.contains '\\'
  let lines := s.contains '\n'
  if !escapes && !backslash && !s.contains '"' && !lines then .basic
  else if !escapes && !s.contains '\'' && !lines then .literal
  else if !escapes && !backslash && longestRun '"' 0 s ≤ 2 then .longBasic
  else if !escapes && longestRun '\'' 0 s ≤ 2 then .longLiteral
  else if lines then .longBasic
  else .basic

def hexChar (n : Nat) : Char := if n < 10 then Char.ofNat (48 + n) else Char.ofNat (55 + n)

def escapeNumber (n : Nat) : List Char := ['\\', 'u', '0', '0', hexChar (n / 16), hexChar (n % 16)]

/-- The characters between double quotes. A quote may stand as it is until `quotes` of them have
been written in a row, a line break only in the long form. -/
def escaped (long : Bool) : Nat → List Char → List Char
  | _, [] => []
  | quotes, '"' :: cs =>
    if quotes < (if long then 2 else 0) then '"' :: escaped long (quotes + 1) cs
    else '\\' :: '"' :: escaped long 0 cs
  | _, '\x08' :: cs => '\\' :: 'b' :: escaped long 0 cs
  | _, '\t' :: cs => '\\' :: 't' :: escaped long 0 cs
  | _, '\n' :: cs =>
    if long then '\n' :: escaped long 0 cs else '\\' :: 'n' :: escaped long 0 cs
  | _, '\x0c' :: cs => '\\' :: 'f' :: escaped long 0 cs
  | _, '\r' :: cs => '\\' :: 'r' :: escaped long 0 cs
  | _, '\\' :: cs => '\\' :: '\\' :: escaped long 0 cs
  | _, c :: cs => (if needsEscape c then escapeNumber c.toNat else [c]) ++ escaped long 0 cs

/-- A string in a style. A long form of several lines begins on a line of its own. -/
def writeAs (style : Style) (s : List Char) : List Char :=
  let opening := if s.contains '\n' then ['\n'] else []
  match style with
  | .basic => ['"'] ++ escaped false 0 s ++ ['"']
  | .literal => ['\''] ++ s ++ ['\'']
  | .longBasic => ['"', '"', '"'] ++ opening ++ escaped true 0 s ++ ['"', '"', '"']
  | .longLiteral => ['\'', '\'', '\''] ++ opening ++ s ++ ['\'', '\'', '\'']

def writeString (s : List Char) : List Char := writeAs (styleOf s) s

end Failover.Toml
