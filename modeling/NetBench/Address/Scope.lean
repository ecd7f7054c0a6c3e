import NetBench.Address.Basic

/-! What the ranges of addresses are for. -/
namespace NetBench

namespace Ip4

/-- The address of all machines of the local network, and of the loopback network. -/
def broadcast : Ip4 := ⟨255, 255, 255, 255⟩
def loopbackBroadcast : Ip4 := ⟨127, 255, 255, 255⟩

def isLoopback (ip : Ip4) : Bool := ip.a == 127

def isMulticast (ip : Ip4) : Bool := 224 ≤ ip.a && ip.a < 240

/-- Addresses of this machine alone. -/
def isOwn (ip : Ip4) : Bool := (ip = unspecified || ip.isLoopback) && ip ≠ loopbackBroadcast

end Ip4

namespace Ip6

def leading (ip : Ip6) : UInt16 := ip.groups.headD 0

def isLinkLocal (ip : Ip6) : Bool := 0xFE80 ≤ ip.leading && ip.leading ≤ 0xFEBF

def isMulticast (ip : Ip6) : Bool := 0xFF00 ≤ ip.leading

/-- Multicast that stays on one machine or on one link. -/
def isNearMulticast (ip : Ip6) : Bool :=
  ip.isMulticast && (ip.leading % 16 = 1 || ip.leading % 16 = 2)

end Ip6

/-- The IPv4 address that an IPv6 address maps, or the address as it is. -/
def Ip.unmapped : Ip → Ip
  | .v6 ⟨[0, 0, 0, 0, 0, 0xFFFF, hi, lo], _⟩ => .v4 (.ofGroups hi lo)
  | ip => ip

end NetBench
