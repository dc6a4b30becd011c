import SniffingRelay.Dial.Family
import SniffingRelay.Fault
import SniffingRelay.Span

set_option autoImplicit false

namespace SniffingRelay

inductive DialError where
  | resolve (host : String) (fault : Fault)
  | noAddresses (host : String) (family : Family)
  | bind (address : SocketAddress) (fault : Fault)
  | connect (address : SocketAddress) (fault : Fault)
  | timeout (limit : Span)
  | notEmbeddable (client : Ip)
  deriving DecidableEq, Repr

namespace DialError

def message : DialError -> String
  | .resolve host fault => "resolving " ++ host ++ ": " ++ fault.message
  | .noAddresses host family => "no usable " ++ family.text ++ " addresses for " ++ host
  | .bind address fault => "binding source address " ++ address.text ++ ": " ++ fault.message
  | .connect address fault => "connect " ++ address.text ++ ": " ++ fault.message
  | .timeout limit => "connect timed out after " ++ limit.text
  | .notEmbeddable client =>
      "client address " ++ client.text ++ " has no IPv4 address to embed"

def fault? : DialError -> Option Fault
  | .resolve _ fault | .bind _ fault | .connect _ fault => some fault
  | _ => none

end DialError

end SniffingRelay
