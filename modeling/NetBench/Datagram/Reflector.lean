import NetBench.Address.Reader
import NetBench.Datagram.Buffer
import NetBench.Datagram.Interface
import NetBench.Settings.Basic

/-! The role that sends every datagram back to its sender. Failed receives are skipped, failed
replies are logged, and it has no end of its own. -/
namespace NetBench.Datagram.Reflector

/-- Receives once into the buffer and replies with what arrived. -/
def serveOne (s : Settings) (buffer : Buffer) : Program Buffer := do
  match ← receive s.udpBufferSize.toNat none with
  | .error why =>
    note (.receiveFailed why)
    return buffer
  | .ok (data, peer) =>
    let buffer := buffer.store data
    note (.received peer data.length)
    match ← send (buffer.front data.length) peer with
    | .ok _ => return buffer
    | .error why =>
      note (.replyFailed peer why)
      return buffer

def serve (s : Settings) (depth : Nat) : Program Failure :=
  Talk.loop (fun buffer => do return .inl (← serveOne s buffer)) depth
    (.blank s.udpBufferSize.toNat)

/-- The role at an address already read. It returns only if it cannot bind. -/
def runAt (s : Settings) (address : Endpoint) (depth : Nat) : Program Failure := do
  match ← bind address with
  | .error why =>
    note (.bindFailed address why)
    return .bind why
  | .ok () =>
    note (.echoListening address)
    serve s depth

def run (s : Settings) (depth : Nat) : Program Failure :=
  match parseAddress s.listenHost with
  | .error why => return .address why
  | .ok ip => runAt s ⟨ip, s.listenPort⟩ depth

end NetBench.Datagram.Reflector
