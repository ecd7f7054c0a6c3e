import NetBench.Address.Basic
import NetBench.Fault
import NetBench.Text.Blank
import NetBench.Text.Numeral
import NetBench.Text.Pieces

/-! Reading addresses. An IPv4 address is four decimal octets without leading zeros.
An IPv6 address is eight groups of one to four hexadecimal digits, where one `::` may stand for
at least one zero group and an IPv4 address for the last two. -/
namespace NetBench
open Text

/-- The parts before and after the first `::`. -/
def splitGap : List Char → Option (List Char × List Char)
  | ':' :: ':' :: cs => some ([], cs)
  | c :: cs => (splitGap cs).map fun (front, back) => (c :: front, back)
  | [] => none

/-- One to three decimal digits without a leading zero, at most 255. -/
def octet? (cs : List Char) : Option UInt8 :=
  if 3 < cs.length || (1 < cs.length && cs.head? == some '0') then none
  else do
    let n ← decimal? cs
    if n < 256 then some n.toUInt8 else none

/-- One to four hexadecimal digits of either case. -/
def group? (cs : List Char) : Option UInt16 :=
  if 4 < cs.length then none else (number? 16 hexDigit? cs).map Nat.toUInt16

def Ip4.read? (cs : List Char) : Option Ip4 :=
  match pieces '.' cs with
  | [a, b, c, d] => do return ⟨← octet? a, ← octet? b, ← octet? c, ← octet? d⟩
  | _ => none

def plainGroups? (parts : List (List Char)) : Option (List UInt16) := parts.mapM group?

/-- Groups from parts, the last of which may be an IPv4 address. -/
def groups? : List (List Char) → Option (List UInt16)
  | [] => some []
  | [last] => match Ip4.read? last with
    | some ip => some ip.groups
    | none => (group? last).map ([·])
  | part :: parts => do return (← group? part) :: (← groups? parts)

/-- The parts between colons; no text has no parts. -/
def colonParts : List Char → List (List Char)
  | [] => []
  | cs => pieces ':' cs

def Ip6.ofGroups? (groups : List UInt16) : Option Ip6 :=
  if h : groups.length = 8 then some ⟨groups, h⟩ else none

def Ip6.read? (cs : List Char) : Option Ip6 :=
  match splitGap cs with
  | none => do Ip6.ofGroups? (← groups? (colonParts cs))
  | some (front, back) => do
    let front ← plainGroups? (colonParts front)
    let back ← groups? (colonParts back)
    let given := front.length + back.length
    if given < 8 then Ip6.ofGroups? (front ++ List.replicate (8 - given) 0 ++ back) else none

def Ip.read? (cs : List Char) : Option Ip :=
  match Ip4.read? cs with
  | some ip => some (.v4 ip)
  | none => (Ip6.read? cs).map .v6

/-- Reads an address, with blanks around it allowed. The fault keeps the text as it was given. -/
def parseAddress (s : String) : Except Fault Ip :=
  match Ip.read? (trim s.toList) with
  | some ip => .ok ip
  | none => .error (.badAddress s)

def Endpoint.read? (s : String) : Option Endpoint := do
  let (address, port) ← match s.toList with
    | '[' :: cs => match pieces ']' cs with
      | [address, ':' :: port] => some (Ip6.read? address |>.map Ip.v6, port)
      | _ => none
    | cs => match pieces ':' cs with
      | [address, port] => some (Ip4.read? address |>.map Ip.v4, port)
      | _ => none
  let ip ← address
  let n ← decimal? port
  if n < 65536 then some ⟨ip, n.toUInt16⟩ else none

end NetBench
