/-! Whole numbers in decimal: how they are read and how far they may go. -/
namespace Failover.Text

def digits? (cs : List Char) : Option Nat :=
  if cs.isEmpty || !cs.all Char.isDigit then none else some (Nat.ofDigitChars 10 cs 0)

def numeral? : List Char → Option Nat
  | '+' :: cs => digits? cs
  | cs => digits? cs

def numeralBelow? (bound : Nat) (cs : List Char) : Option Nat :=
  (numeral? cs).filter (· < bound)

def port? (cs : List Char) : Option UInt16 := (numeralBelow? UInt16.size cs).map UInt16.ofNat

def word32? (cs : List Char) : Option UInt32 := (numeralBelow? UInt32.size cs).map UInt32.ofNat

def word64? (cs : List Char) : Option UInt64 := (numeralBelow? UInt64.size cs).map UInt64.ofNat

theorem digits?_toDigits (n : Nat) : digits? (Nat.toDigits 10 n) = some n := by
  have hne : (Nat.toDigits 10 n).isEmpty = false := by
    simp [Nat.toDigits_ne_nil]
  have hall : (Nat.toDigits 10 n).all Char.isDigit = true :=
    List.all_eq_true.2 fun c hc => Nat.isDigit_of_mem_toDigits (by decide) (by decide) hc
  simp [digits?, hne, hall, Nat.ofDigitChars_ten_toDigits]

end Failover.Text
