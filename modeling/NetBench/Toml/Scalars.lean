import NetBench.Text.Numeral
import NetBench.Text.Pieces
import NetBench.Toml.Scan
import NetBench.Toml.Value

/-! Numbers, dates, times and truth values. All are words of letters, digits and a few marks, so a
word is cut out first and then read as a whole. -/
namespace NetBench.Toml
open Decimal Text

def isWordChar (c : Char) : Bool :=
  c.isAlphanum || c = '_' || c = '+' || c = '-' || c = '.' || c = ':'

/-- Digits with single underscores between them, which are left out. -/
def grouped? (digit? : Char → Option Nat) : List Char → Option (List Char)
  | [] => none
  | [c] => do let _ ← digit? c; some [c]
  | c :: '_' :: cs => do let _ ← digit? c; return c :: (← grouped? digit? cs)
  | c :: cs => do let _ ← digit? c; return c :: (← grouped? digit? cs)

def decimalDigits? (cs : List Char) : Option (List Char) := do
  let ds ← grouped? decimalDigit? cs
  if cs.length ≠ 1 && cs.head? = some '0' then none else some ds

/-- An optional sign; the first part says whether it is a minus. -/
def signed : List Char → Bool × List Char
  | '+' :: cs => (false, cs)
  | '-' :: cs => (true, cs)
  | cs => (false, cs)

def inRange? (n : Int) : Option Int :=
  if -0x8000000000000000 ≤ n && n < 0x8000000000000000 then some n else none

private def based? (base : Nat) (cs : List Char) : Option Int := do
  let digit? := fun c => (hexDigit? c).filter (· < base)
  inRange? ((← number? base digit? (← grouped? digit? cs)) : Nat)

/-- An integer of 64 bits; only decimal ones have a sign. -/
def integer? : List Char → Option Int
  | '0' :: 'x' :: cs => based? 16 cs
  | '0' :: 'o' :: cs => based? 8 cs
  | '0' :: 'b' :: cs => based? 2 cs
  | cs => do
    let (negative, cs) := signed cs
    let n : Nat ← decimal? (← decimalDigits? cs)
    inRange? (if negative then -n else n)

/-- The number nearest to `coefficient * 10 ^ exponent`, `digits` being the digits of the
coefficient. Far beyond either end of the range there is nothing to compute. -/
def nearest (coefficient digits : Nat) (exponent : Int) : Option Binary64 :=
  if coefficient = 0 then some .zero
  else if 400 < exponent + digits then none
  else if exponent + digits < -400 then some .zero
  else
    let x := Binary64.ofRatio (coefficient * Nat.pow 10 exponent.toNat) (Nat.pow 10 (-exponent).toNat)
    if x.overflows then none else some x

private def mantissa? (cs : List Char) : Option (List Char × Nat) := do
  match cut '.' cs with
  | (whole, none) => return (← decimalDigits? whole, 0)
  | (whole, some places) =>
    let places ← grouped? decimalDigit? places
    return ((← decimalDigits? whole) ++ places, places.length)

private def exponent? : Option (List Char) → Option Int
  | none => some 0
  | some cs => do
    let (negative, cs) := signed cs
    let n : Nat ← decimal? (← grouped? decimalDigit? cs)
    return if negative then -n else n

/-- A number with decimal places or an exponent. One too large for the range is refused when it is
positive, and is infinite when it is negative. -/
def float? (cs : List Char) : Option Real := do
  let (negative, cs) := signed cs
  if cs = "inf".toList then return .infinite negative
  if cs = "nan".toList then return .nan
  if cs.all fun c => c ≠ '.' && c ≠ 'e' && c ≠ 'E' then none
  let (front, power) := cut 'e' (cs.map fun c => if c = 'E' then 'e' else c)
  let (ds, places) ← mantissa? front
  let coefficient ← decimal? ds
  match nearest coefficient (digits coefficient).length ((← exponent? power) - places) with
  | some x => return .finite negative x
  | none => if negative then return .infinite true else none

private def pair? (low high : Nat) (a b : Char) : Option Nat := do
  let n := (← decimalDigit? a) * 10 + (← decimalDigit? b)
  if low ≤ n && n ≤ high then some n else none

def daysIn (year month : Nat) : Nat :=
  if month = 2 then (if year % 4 = 0 && (year % 100 ≠ 0 || year % 400 = 0) then 29 else 28)
  else if month = 4 || month = 6 || month = 9 || month = 11 then 30
  else 31

def isDate : List Char → Bool
  | [a, b, c, d, '-', e, f, '-', g, h] => Option.isSome do
    let year ← decimal? [a, b, c, d]
    let month ← pair? 1 12 e f
    pair? 1 (daysIn year month) g h
  | _ => false

/-- What may follow the seconds: a fraction, and where `zoned` a distance from universal time. -/
private def isTail (zoned : Bool) (cs : List Char) : Bool :=
  let zone : List Char → Bool
    | [] => true
    | ['Z'] | ['z'] => zoned
    | [s, a, b, ':', c, d] =>
      zoned && (s = '+' || s = '-') && (pair? 0 23 a b).isSome && (pair? 0 59 c d).isSome
    | _ => false
  match cs with
  | '.' :: c :: cs => c.isDigit && zone (cs.dropWhile Char.isDigit)
  | cs => zone cs

/-- A time of day; a leap second counts. -/
def isTime (zoned : Bool) : List Char → Bool
  | a :: b :: ':' :: c :: d :: ':' :: e :: f :: cs =>
    (pair? 0 23 a b).isSome && (pair? 0 59 c d).isSome && (pair? 0 60 e f).isSome && isTail zoned cs
  | _ => false

/-- A date and time joined by `T`, a date, or a time. -/
def isDatetime (cs : List Char) : Bool :=
  isDate cs || isTime false cs ||
    (isDate (cs.take 10) && match cs.drop 10 with
      | 'T' :: time | 't' :: time => isTime true time
      | _ => false)

/-- A number, date, time or truth value. A blank may join a date and a time. -/
def scalar (cs : List Char) : Option (Value × List Char) :=
  let word := cs.takeWhile isWordChar
  let rest := cs.dropWhile isWordChar
  if word = "true".toList then some (.boolean true, rest)
  else if word = "false".toList then some (.boolean false, rest)
  else if isDatetime word then
    match rest with
    | ' ' :: more =>
      if isDate word && isTime true (more.takeWhile isWordChar) then
        some (.datetime, more.dropWhile isWordChar)
      else some (.datetime, rest)
    | _ => some (.datetime, rest)
  else match integer? word with
    | some n => some (.integer n, rest)
    | none => (float? word).map fun x => (.float x, rest)

end NetBench.Toml
