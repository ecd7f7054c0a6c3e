import NetBench.Address.Reader
import NetBench.Datagram.Buffer
import NetBench.Datagram.Interface
import NetBench.Settings.Basic

/-! The role that sends the greeting once per round and waits a while for an answer.
A failed send ends it, a failed receive does not. -/
namespace NetBench.Datagram.Prober

/-- The message of every round: the greeting with a zero byte at its end. -/
def probe (s : Settings) : List UInt8 := Text.utf8 s.greeting ++ [0]

/-- Rounds begun, answers received, and the receive buffer. -/
structure Progress where
  round : Nat
  echoes : Nat
  buffer : Buffer

def await (s : Settings) (p : Progress) : Program Progress := do
  match ← receive s.udpBufferSize.toNat (some s.udpTimeoutMs.toNat) with
  | .ok (data, peer) =>
    let buffer := p.buffer.store data
    note (.echoed peer (buffer.front data.length))
    return { p with echoes := p.echoes + 1, buffer }
  | .error .timedOut =>
    note (.roundTimedOut p.round)
    return p
  | .error why =>
    note (.roundFailed p.round why)
    return p

def complete (s : Settings) (round : Nat) : Bool := s.rounds.any fun limit => limit.toNat ≤ round

/-- One round, or the end when all rounds are over. -/
def step (s : Settings) (remote : Endpoint) (p : Progress) :
    Program (Progress ⊕ Except Failure Nat) := do
  if complete s p.round then
    close
    return .inr (.ok p.echoes)
  else
    let p := { p with round := p.round + 1 }
    match ← send (probe s) remote with
    | .error why =>
      note (.sendFailed remote why)
      close
      return .inr (.error (.send why))
    | .ok _ =>
      let p ← await s p
      pause s.udpIntervalMs.toNat
      return .inl p

/-- The role against a remote already read, unfolded to `depth` rounds. The result is the number
of answers. -/
def runTo (s : Settings) (ip : Ip) (depth : Nat) : Program (Except Failure Nat) := do
  let address : Endpoint := ⟨ip.unspecifiedLike, 0⟩
  match ← bind address with
  | .error why =>
    note (.bindFailed address why)
    return .error (.bind why)
  | .ok () =>
    Talk.loop (step s ⟨ip, s.remotePort⟩) depth ⟨0, 0, .blank s.udpBufferSize.toNat⟩

def run (s : Settings) (depth : Nat) : Program (Except Failure Nat) :=
  match parseAddress s.remoteHost with
  | .error why => return .error (.address why)
  | .ok ip => runTo s ip depth

end NetBench.Datagram.Prober
