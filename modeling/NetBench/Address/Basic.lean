/-! Internet addresses of both families, and endpoints. -/
namespace NetBench

/-- Four octets. -/
structure Ip4 where
  a : UInt8
  b : UInt8
  c : UInt8
  d : UInt8
  deriving DecidableEq, Repr

/-- Eight groups of sixteen bits. -/
structure Ip6 where
  groups : List UInt16
  length_groups : groups.length = 8 := by decide
  deriving DecidableEq, Repr

inductive Ip where
  | v4 (ip : Ip4)
  | v6 (ip : Ip6)
  deriving DecidableEq, Repr

/-- An address with a port. -/
structure Endpoint where
  ip : Ip
  port : UInt16
  deriving DecidableEq, Repr

/-- The address of all interfaces of a family. -/
def Ip4.unspecified : Ip4 := ⟨0, 0, 0, 0⟩
def Ip6.unspecified : Ip6 := ⟨[0, 0, 0, 0, 0, 0, 0, 0], by decide⟩

/-- The address of all interfaces of `ip`'s family. -/
def Ip.unspecifiedLike : Ip → Ip
  | .v4 _ => .v4 .unspecified
  | .v6 _ => .v6 .unspecified

def Ip4.groups (ip : Ip4) : List UInt16 :=
  [ip.a.toUInt16 * 256 + ip.b.toUInt16, ip.c.toUInt16 * 256 + ip.d.toUInt16]

def Ip4.ofGroups (hi lo : UInt16) : Ip4 :=
  ⟨(hi / 256).toUInt8, hi.toUInt8, (lo / 256).toUInt8, lo.toUInt8⟩

end NetBench
