import NetBench.Decimal.Fixed

/-! The shortest decimal that rounds to a given binary64 number, and its positional form.
Of equally short decimals the one nearest to the number is taken, and of two that are equally near
the larger. -/
namespace NetBench.Decimal

/-- The decimal value `coefficient * 10 ^ exponent`. -/
structure Numeral where
  coefficient : Nat
  exponent : Int
  deriving DecidableEq, Repr

/-- The interval of reals that round to a number, in quarters of its last binary place,
with its ends included iff the significand is even. -/
structure Interval where
  low : Nat
  high : Nat
  closed : Bool

def Binary64.interval (x : Binary64) : Interval where
  low := 4 * x.significand -
    (if x.significand = Nat.pow 2 52 && Binary64.leastExponent < x.exponent then 1 else 2)
  high := 4 * x.significand + 2
  closed := x.significand % 2 == 0

/-- `n / d` lies in the interval of `x`, both in units of its quarter place. -/
def Interval.holds (i : Interval) (n d : Nat) : Bool :=
  if i.closed then i.low * d ≤ n && n ≤ i.high * d else i.low * d < n && n < i.high * d

def leadingPlace (x : Binary64) : Int :=
  if x.den ≤ x.num then ((digits (x.num / x.den)).length : Int) - 1
  else
    let inverse := x.den / x.num
    let places := (digits inverse).length
    (if x.den % x.num = 0 && inverse = Nat.pow 10 (places - 1) then 1 else 0) - (places : Int)

/-- The two neighbours of `x` on the grid of multiples of `10 ^ place` that round to `x`,
the nearer one first and a round ten as a one in the next place. -/
def onGrid (x : Binary64) (place : Int) : List Numeral :=
  let n := x.num * Nat.pow 10 (-place).toNat
  let d := x.den * Nat.pow 10 place.toNat
  let below := n / d
  let hits := [below, below + 1].filter fun c =>
    -- `c * 10 ^ place` over a quarter of `2 ^ exponent`
    x.interval.holds (c * Nat.pow 10 place.toNat * 4 * Nat.pow 2 (-x.exponent).toNat)
      (Nat.pow 10 (-place).toNat * Nat.pow 2 x.exponent.toNat)
  let ordered := if 2 * (n % d) < d then hits else hits.reverse
  ordered.map fun c => if c % 10 = 0 then ⟨c / 10, place + 1⟩ else ⟨c, place⟩

/-- The shortest decimal that rounds to `x`: seventeen digits always suffice. -/
def shortest (x : Binary64) : Numeral :=
  if x.significand = 0 then ⟨0, 0⟩
  else
    let lead := leadingPlace x
    ((List.range 18).findSome? fun k => (onGrid x (lead - (k : Nat))).head?).getD ⟨0, 0⟩

/-- Positional form, with at least one digit on each side of the point. -/
def positional (d : Numeral) : String :=
  if d.exponent < 0 then String.ofList (placePoint (-d.exponent).toNat d.coefficient)
  else String.ofList (digits (d.coefficient * Nat.pow 10 d.exponent.toNat) ++ ['.', '0'])

end NetBench.Decimal
