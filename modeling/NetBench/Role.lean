/-! The four roles a process can play. -/
namespace NetBench

inductive Role where
  | tcpServer
  | tcpClient
  | udpServer
  | udpClient
  deriving DecidableEq, Repr

namespace Role

/-- All roles, in the order in which messages list them. -/
def all : List Role := [.tcpServer, .tcpClient, .udpServer, .udpClient]

def name : Role → String
  | .tcpServer => "tcp-server"
  | .tcpClient => "tcp-client"
  | .udpServer => "udp-server"
  | .udpClient => "udp-client"

/-- The name in log lines. -/
def label : Role → String
  | .tcpServer => "TcpServer"
  | .tcpClient => "TcpClient"
  | .udpServer => "UdpServer"
  | .udpClient => "UdpClient"

def ofName? (s : String) : Option Role := all.find? (·.name == s)

@[simp] theorem ofName?_name (r : Role) : ofName? r.name = some r := by cases r <;> decide

theorem name_of_ofName? {s : String} {r : Role} (h : ofName? s = some r) : r.name = s := by
  simpa using List.find?_some h

end Role
end NetBench
