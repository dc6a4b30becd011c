import SniffingRelay.AllowList
import SniffingRelay.Dial.Family

set_option autoImplicit false

namespace SniffingRelay

inductive Protocol where
  | tls
  | http
  deriving DecidableEq, Repr

namespace Protocol

def defaultPort : Protocol -> UInt16
  | .tls => 443
  | .http => 80

def text : Protocol -> String
  | .tls => "tls"
  | .http => "http"

end Protocol

/-- Times are in milliseconds. -/
structure Service where
  address : SocketAddress
  protocol : Protocol
  allowList : AllowList := ⟨[]⟩
  backendPort : Option UInt16 := none
  family : Family := .any
  -- Time to read a destination.
  sniffLimit : Nat := 5000
  -- Time without bytes in either direction after which a session ends.
  idleLimit : Option Nat := none
  deriving DecidableEq, Repr

def Service.targetPort (service : Service) : UInt16 :=
  service.backendPort.getD service.protocol.defaultPort

end SniffingRelay
