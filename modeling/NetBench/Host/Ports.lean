import NetBench.Address.Scope
import NetBench.Fault

/-! The ports of a machine. Streams and datagrams have ports of their own; within one of them no
port is taken twice on addresses that overlap. -/
namespace NetBench

/-- Whether two bound addresses can receive the same packet. The unspecified IPv6 address takes in
IPv4, the unspecified IPv4 address does not take in IPv6. -/
def Ip.overlaps (a b : Ip) : Bool :=
  a.unmapped = b.unmapped || a = .v6 .unspecified || b = .v6 .unspecified ||
    match a.unmapped, b.unmapped with
    | .v4 a, .v4 b => a = .unspecified || b = .unspecified
    | _, _ => false

namespace Host

inductive Service where
  | stream
  | datagram
  deriving DecidableEq, Repr

/-- A taken port. -/
structure Holding where
  service : Service
  endpoint : Endpoint
  deriving DecidableEq, Repr

def Holding.conflicts (x y : Holding) : Bool :=
  x.service = y.service && x.endpoint.port = y.endpoint.port &&
    x.endpoint.ip.overlaps y.endpoint.ip

/-- The ports that are given out to those who ask for none. -/
def ephemeral : List UInt16 := (List.range' 32768 28232).map Nat.toUInt16

def isFree (service : Service) (held : List Holding) (e : Endpoint) : Bool :=
  held.all fun x => !x.conflicts ⟨service, e⟩

/-- The endpoint if it is free, or one with a free port in place of port zero. -/
def choose (service : Service) (held : List Holding) (e : Endpoint) : Option Endpoint :=
  if e.port = 0 then (ephemeral.map (Endpoint.mk e.ip)).find? (isFree service held)
  else (some e).filter (isFree service held)

/-- Why an address cannot be taken. A machine has its loopback network, and receives what is for all
or for a group. It has no IPv6 address of its own; what holds for one link needs the link named, and
streams have no groups there. -/
def objection (service : Service) (ip : Ip) : Option OsError :=
  match ip.unmapped with
  | .v4 ip =>
    if ip = .unspecified || ip.isLoopback || ip.isMulticast || ip = .broadcast then none
    else some .addressUnavailable
  | .v6 ip =>
    if ip = .unspecified then none
    else if ip.isLinkLocal || ip.isNearMulticast then some .invalidArgument
    else if ip.isMulticast then
      match service with
      | .stream => some .invalidArgument
      | .datagram => none
    else some .addressUnavailable

def occupy (service : Service) (e : Endpoint) (held : List Holding) :
    Except OsError (Endpoint × List Holding) :=
  match objection service e.ip, choose service held e with
  | some why, _ => .error why
  | none, some e => .ok (e, ⟨service, e⟩ :: held)
  | none, none => .error .addressInUse

def release (service : Service) (e : Endpoint) (held : List Holding) : List Holding :=
  held.erase ⟨service, e⟩

end Host
end NetBench
