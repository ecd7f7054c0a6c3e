/-! Nonnegative binary64 numbers as exact values `significand * 2 ^ exponent`.
Quotients of naturals round to the nearest such number, a tie to the even significand. -/
namespace NetBench.Decimal

/-- The quotient rounded to the nearest natural, a tie to the even one. -/
def nearestEven (num den : Nat) : Nat :=
  let q := num / den
  let r := num % den
  if den < 2 * r || (2 * r == den && q % 2 == 1) then q + 1 else q

/-- The value `significand * 2 ^ exponent`. -/
structure Binary64 where
  significand : Nat
  exponent : Int
  deriving DecidableEq, Repr

namespace Binary64

/-- The least exponent of binary64: 2 ^ -1074 is its least positive value. -/
def leastExponent : Int := -1074

def zero : Binary64 := ⟨0, leastExponent⟩

def num (x : Binary64) : Nat := x.significand * Nat.pow 2 x.exponent.toNat
def den (x : Binary64) : Nat := Nat.pow 2 (-x.exponent).toNat

/-- The exponent of the leading bit of a positive fraction. -/
def leadingExponent (num den : Nat) : Int :=
  let e : Int := (num.log2 : Int) - den.log2
  if den * Nat.pow 2 e.toNat ≤ num * Nat.pow 2 (-e).toNat then e else e - 1

/-- The binary64 number nearest to `num / den`, with no upper bound on the exponent.
Its significand has 53 bits unless the exponent is the least one. -/
def ofRatio (num den : Nat) : Binary64 :=
  if num = 0 then zero
  else
    let e := max (leadingExponent num den - 52) leastExponent
    let m := nearestEven (num * Nat.pow 2 (-e).toNat) (den * Nat.pow 2 e.toNat)
    if m = Nat.pow 2 53 then ⟨Nat.pow 2 52, e + 1⟩ else ⟨m, e⟩

def ofNat (n : Nat) : Binary64 := ofRatio n 1

def div (x y : Binary64) : Binary64 := ofRatio (x.num * y.den) (x.den * y.num)

def scale (x : Binary64) (num den : Nat) : Binary64 := ofRatio (x.num * num) (x.den * den)

def overflows (x : Binary64) : Bool := 971 < x.exponent

def bits (x : Binary64) : Nat :=
  if x.significand < Nat.pow 2 52 then x.significand
  else (x.exponent + 1075).toNat * Nat.pow 2 52 + (x.significand - Nat.pow 2 52)

end Binary64
end NetBench.Decimal
