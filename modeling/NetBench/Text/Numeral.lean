/-! Digits and the numbers they denote. -/
namespace NetBench.Text

def decimalDigit? (c : Char) : Option Nat :=
  if '0' ≤ c && c ≤ '9' then some (c.toNat - '0'.toNat) else none

def hexDigit? (c : Char) : Option Nat :=
  if '0' ≤ c && c ≤ '9' then some (c.toNat - '0'.toNat)
  else if 'a' ≤ c && c ≤ 'f' then some (c.toNat - 'a'.toNat + 10)
  else if 'A' ≤ c && c ≤ 'F' then some (c.toNat - 'A'.toNat + 10)
  else none

/-- Reads on from the value `n` of the digits so far. -/
def digitsFrom? (base : Nat) (digit? : Char → Option Nat) (n : Nat) : List Char → Option Nat
  | [] => some n
  | c :: cs => do digitsFrom? base digit? (n * base + (← digit? c)) cs

/-- The number that the digits denote, if there is at least one and all are digits. -/
def number? (base : Nat) (digit? : Char → Option Nat) : List Char → Option Nat
  | [] => none
  | c :: cs => digitsFrom? base digit? 0 (c :: cs)

def decimal? : List Char → Option Nat := number? 10 decimalDigit?

end NetBench.Text
