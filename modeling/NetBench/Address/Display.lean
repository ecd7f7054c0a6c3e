import NetBench.Address.Basic
import NetBench.Decimal.Fixed
import NetBench.Text.Pieces
import NetBench.Text.Quoted

/-! The canonical text of addresses: lower case, no leading zeros, and the first longest run of
two or more zero groups as `::`. Mapped IPv4 addresses keep their dots. -/
namespace NetBench

def Ip4.chars (ip : Ip4) : List Char :=
  Text.joinWith ['.'] ([ip.a, ip.b, ip.c, ip.d].map fun o => Decimal.digits o.toNat)

def zeroRun (groups : List UInt16) : Nat := (groups.takeWhile (· == 0)).length

/-- Start and length of the first longest run of zero groups from position `i` on. -/
def longestZeroRun (i : Nat) : List UInt16 → Nat × Nat
  | [] => (i, 0)
  | g :: gs =>
    let here := zeroRun (g :: gs)
    let later := longestZeroRun (i + 1) gs
    if later.2 ≤ here then (i, here) else later

def groupChars (groups : List UInt16) : List Char :=
  Text.joinWith [':'] (groups.map fun g => Text.hexDigits g.toNat)

def Ip6.chars (ip : Ip6) : List Char :=
  match ip.groups with
  | [0, 0, 0, 0, 0, 0xFFFF, hi, lo] => "::ffff:".toList ++ (Ip4.ofGroups hi lo).chars
  | groups =>
    let (start, len) := longestZeroRun 0 groups
    if 1 < len then
      groupChars (groups.take start) ++ [':', ':'] ++ groupChars (groups.drop (start + len))
    else groupChars groups

def Ip.chars : Ip → List Char
  | .v4 ip => ip.chars
  | .v6 ip => ip.chars

def Ip.text (ip : Ip) : String := String.ofList ip.chars

/-- An endpoint; brackets keep the colons of an IPv6 address apart from the port's. -/
def Endpoint.text (e : Endpoint) : String :=
  let port := ':' :: Decimal.digits e.port.toNat
  match e.ip with
  | .v4 ip => String.ofList (ip.chars ++ port)
  | .v6 ip => String.ofList ('[' :: ip.chars ++ ']' :: port)

end NetBench
