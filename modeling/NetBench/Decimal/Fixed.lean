import NetBench.Decimal.Binary64

/-! Numbers with a fixed count of decimal places, the exact binary value rounded once,
a tie to the even last digit. -/
namespace NetBench.Decimal

def digits (n : Nat) : List Char := Nat.toDigits 10 n

/-- The natural `n` in units of the last of `places` places. -/
def placePoint (places n : Nat) : List Char :=
  let ds := digits n
  let padded := List.replicate (places + 1 - ds.length) '0' ++ ds
  let whole := padded.length - places
  padded.take whole ++ (if places = 0 then [] else '.' :: padded.drop whole)

/-- The number with `places` decimal places. -/
def fixed (places : Nat) (x : Binary64) : String :=
  String.ofList (placePoint places (nearestEven (x.num * Nat.pow 10 places) x.den))

end NetBench.Decimal
