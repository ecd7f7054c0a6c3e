import NetBench.Host.Pair
import NetBench.Host.Ports
import NetBench.Stream.Arrival

/-! A machine that carries no traffic but that of connected pairs. Ports can be taken, but nobody
connects to it and no datagram arrives; connecting and sending to others fails at once. -/
namespace NetBench.Host

/-- Ports in use, the ends of all pairs, and the time in milliseconds. Connection number `c` is at
index `c - 1`; an odd number and the one after it are a pair. -/
structure Machine where
  held : List Holding := []
  ends : List End := []
  now : Nat := 0

def peerOf (conn : Nat) : Nat := if conn % 2 = 1 then conn + 1 else conn - 1

namespace Machine

def endOf (m : Machine) (conn : Nat) : End := m.ends[conn - 1]?.getD {}

def setEnd (m : Machine) (conn : Nat) (e : End) : Machine :=
  { m with ends := m.ends.set (conn - 1) e }

/-- A new pair, by the numbers of its ends. -/
def pair (m : Machine) : (Nat × Nat) × Machine :=
  let conn := m.ends.length + 1
  ((conn, conn + 1), { m with ends := m.ends ++ [{}, {}] })

/-- An operation that nothing completes: it times out, or lasts for ever. -/
def idle {α : Type} (m : Machine) : Option Nat → Option (Except Fault α) × Machine
  | some ms => (some (.error .timedOut), { m with now := m.now + ms })
  | none => (none, m)

def read (m : Machine) (conn room : Nat) (timeout : Option Nat) :
    Option (Except Fault (List UInt8)) × Machine :=
  match (m.endOf conn).read room with
  | (some found, e) =>
    (some (Stream.received room List.length (found.mapError .os)), m.setEnd conn e)
  | (none, _) => m.idle timeout

/-- Reads until a read fails, `reads` times at most: the bytes read, and the failure. -/
def drain (m : Machine) (conn room : Nat) (timeout : Option Nat) :
    (reads : Nat) → Nat × Option Fault × Machine
  | 0 => (0, none, m)
  | reads + 1 =>
    match m.read conn room timeout with
    | (some (.ok data), m) =>
      let (total, why, m) := drain m conn room timeout reads
      (data.length + total, why, m)
    | (some (.error why), m) => (0, some why, m)
    | (none, m) => (0, none, m)

/-- Writes to the peer, unless it has left. It lasts for ever if there is no room for a byte. -/
def write (m : Machine) (conn : Nat) (data : List UInt8) : Option (Except Fault Nat) × Machine :=
  if (m.endOf conn).peerGone then (some (.error (.io (.os .brokenPipe))), m)
  else
    let peer := peerOf conn
    let (taken, e) := (m.endOf peer).deliver data
    (if taken = 0 ∧ data ≠ [] then none else some (.ok taken), m.setEnd peer e)

def disconnect (m : Machine) (conn : Nat) : Machine :=
  let peer := peerOf conn
  m.setEnd peer ((m.endOf peer).abandon ((m.endOf conn).parcels ≠ []))

def occupy (m : Machine) (service : Service) (e : Endpoint) : Except Fault Endpoint × Machine :=
  match Host.occupy service e m.held with
  | .ok (e, held) => (.ok e, { m with held })
  | .error why => (.error (.io (.os why)), m)

def release (m : Machine) (service : Service) (e : Endpoint) : Machine :=
  { m with held := Host.release service e m.held }

/-- Why connecting fails. Nobody listens on the machine's own addresses; a group or all at once
cannot be connected to; and nothing leaves a machine without an IPv6 address. -/
def refusal (remote : Endpoint) : Fault :=
  .io (.os (match remote.ip.unmapped with
    | .v4 ip => if ip.isOwn then .connectionRefused else .networkUnreachable
    | .v6 ip =>
      if ip.isLinkLocal then .invalidArgument
      else if ip.isMulticast then .networkUnreachable
      else .addressUnavailable))

/-- Why a datagram cannot be sent. A socket of IPv4 reaches no IPv6 address, one with an IPv6
address reaches no mapped one, and port zero cannot be sent to. -/
def sendingError (own remote : Endpoint) : Option OsError :=
  match own.ip, remote.ip, remote.ip.unmapped with
  | .v4 _, .v6 _, _ => some .familyUnsupported
  | _, ip, ip' =>
    if own.ip.unmapped = own.ip && own.ip ≠ own.ip.unspecifiedLike && ip ≠ ip' then
      some .networkUnreachable
    else if remote.port = 0 then some .invalidArgument
    else match ip' with
      | .v4 ip =>
        if ip.isOwn then none
        else if ip.isLoopback then some .permissionDenied
        else some .networkUnreachable
      | .v6 _ => some .addressUnavailable

def sendTo (own remote : Endpoint) (data : List UInt8) : Except Fault Nat :=
  match sendingError own remote with
  | some why => .error (.io (.os why))
  | none => .ok data.length

end Machine
end NetBench.Host
