import Failover.Text.Numeral
import Failover.Toml.Quoted

/-! Numbers, dates and times of a TOML text. Of floats and dates only the form matters here. -/
namespace Failover.Toml

inductive Quantity where
  | integer (n : Int)
  | float
  | datetime
  deriving DecidableEq

/-- Digits of a base with single underscores between them, behind the first digit. -/
def moreDigits (isDigit : Char → Bool) : List Char → Option (List Char × List Char)
  | '_' :: c :: r => do
    if isDigit c then
      let (ds, r) ← moreDigits isDigit r
      some (c :: ds, r)
    else none
  | '_' :: [] => none
  | c :: r => do
    if isDigit c then
      let (ds, r) ← moreDigits isDigit r
      some (c :: ds, r)
    else some ([], c :: r)
  | [] => some ([], [])

def someDigits (isDigit : Char → Bool) : List Char → Option (List Char × List Char)
  | c :: r => if isDigit c then (moreDigits isDigit r).map fun (ds, r) => (c :: ds, r) else none
  | [] => none

def wholeDigits : List Char → Option (List Char × List Char)
  | '0' :: r => some (['0'], r)
  | s => someDigits Char.isDigit s

def takeSign : List Char → Bool × List Char
  | '-' :: r => (true, r)
  | '+' :: r => (false, r)
  | s => (false, s)

def inRange (n : Int) : Bool := Int64.minValue.toInt ≤ n && n ≤ Int64.maxValue.toInt

def valueInBase (base : Nat) (digits : List Char) : Nat :=
  digits.foldl (fun n c => base * n + (hexDigit? c).getD 0) 0

def integerOf (negative : Bool) (n : Nat) : Option Quantity :=
  let n : Int := if negative then -n else n
  if inRange n then some (.integer n) else none

/-- The value `digits · 10 ^ exponent` is nearer to the largest finite double than to anything
beyond. -/
def isFinite (digits : Nat) (exponent : Int) : Bool :=
  let limit := Nat.pow 2 1024 - Nat.pow 2 970
  let size : Int := (Nat.toDigits 10 digits).length + exponent
  digits == 0 || size < 309 ||
    (size < 311 &&
      if 0 ≤ exponent then digits * Nat.pow 10 exponent.toNat < limit
      else digits < limit * Nat.pow 10 (-exponent).toNat)

def readExponent : List Char → Option (Option Int × List Char)
  | 'e' :: r | 'E' :: r => do
    let (negative, r) := takeSign r
    let (ds, r) ← someDigits Char.isDigit r
    let n : Int := valueInBase 10 ds
    some (some (if negative then -n else n), r)
  | s => some (none, s)

/-- A whole number in decimal, and what may follow to make it a float. A positive float must not
be too large for a double. -/
def readDecimal (s : List Char) : Option (Quantity × List Char) := do
  let (negative, s) := takeSign s
  let (whole, s) ← wholeDigits s
  let (fraction, s) ← match s with
    | '.' :: r => (someDigits Char.isDigit r).map fun (ds, r) => (some ds, r)
    | _ => some (none, s)
  let (exponent, s) ← readExponent s
  if fraction.isNone && exponent.isNone then
    let q ← integerOf negative (valueInBase 10 whole)
    some (q, s)
  else
    let ds := fraction.getD []
    if negative || isFinite (valueInBase 10 (whole ++ ds)) (exponent.getD 0 - ds.length) then
      some (.float, s)
    else none

def readInBase (base : Nat) (isDigit : Char → Bool) (s : List Char) :
    Option (Quantity × List Char) := do
  let (ds, s) ← someDigits isDigit s
  let q ← integerOf false (valueInBase base ds)
  some (q, s)

def two? (a b : Char) (low high : Nat) : Option Nat := do
  let n ← Text.digits? [a, b]
  if low ≤ n ∧ n ≤ high then some n else none

def daysIn (year month : Nat) : Nat :=
  if month = 2 then if year % 4 = 0 ∧ (year % 100 ≠ 0 ∨ year % 400 = 0) then 29 else 28
  else if month ∈ [4, 6, 9, 11] then 30 else 31

/-- Behind the hour and its colon: minutes, seconds and perhaps a fraction. -/
def readMinutes : List Char → Option (List Char)
  | a :: b :: ':' :: c :: d :: r => do
    let _ ← two? a b 0 59
    let _ ← two? c d 0 60
    match r with
    | '.' :: x :: r => if x.isDigit then some (r.dropWhile Char.isDigit) else some ('.' :: x :: r)
    | _ => some r
  | _ => none

def readOffset : List Char → Option (List Char)
  | 'Z' :: r | 'z' :: r => some r
  | '+' :: a :: b :: ':' :: c :: d :: r | '-' :: a :: b :: ':' :: c :: d :: r => do
    let _ ← two? a b 0 23
    let _ ← two? c d 0 59
    some r
  | '+' :: _ | '-' :: _ => none
  | s => some s

/-- Behind a date: perhaps a time of day and its offset. -/
def readClock (s : List Char) : Option (List Char) :=
  match s with
  | sep :: a :: b :: ':' :: r =>
    if sep ∈ ['T', 't', ' '] ∧ a.isDigit ∧ b.isDigit then do
      let _ ← two? a b 0 23
      let r ← readMinutes r
      readOffset r
    else some s
  | _ => some s

def readDate (year : List Char) : List Char → Option (List Char)
  | a :: b :: '-' :: c :: d :: r => do
    let y ← Text.digits? year
    let m ← two? a b 1 12
    let _ ← two? c d 1 (daysIn y m)
    readClock r
  | _ => none

/-- A number, or a date or time, which are told by a dash behind four digits and a colon behind
two. -/
def readQuantity (s : List Char) : Option (Quantity × List Char) :=
  match s with
  | '+' :: 'i' :: 'n' :: 'f' :: r | '-' :: 'i' :: 'n' :: 'f' :: r | 'i' :: 'n' :: 'f' :: r
  | '+' :: 'n' :: 'a' :: 'n' :: r | '-' :: 'n' :: 'a' :: 'n' :: r | 'n' :: 'a' :: 'n' :: r =>
    some (.float, r)
  | '0' :: 'x' :: r => readInBase 16 (fun c => (hexDigit? c).isSome) r
  | '0' :: 'o' :: r => readInBase 8 (fun c => '0' ≤ c && c ≤ '7') r
  | '0' :: 'b' :: r => readInBase 2 (fun c => c == '0' || c == '1') r
  | a :: b :: ':' :: r =>
    if a.isDigit ∧ b.isDigit then do
      let _ ← two? a b 0 23
      let r ← readMinutes r
      some (.datetime, r)
    else readDecimal s
  | a :: b :: c :: d :: '-' :: r =>
    if [a, b, c, d].all Char.isDigit then (readDate [a, b, c, d] r).map (.datetime, ·)
    else readDecimal s
  | _ => readDecimal s

end Failover.Toml
