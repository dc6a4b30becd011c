import SniffingRelay.Ip.SocketAddress

set_option autoImplicit false

namespace SniffingRelay

inductive Family where
  | any
  | ipv4
  | ipv6
  deriving DecidableEq, Repr

namespace Family

def admits : Family -> SocketAddress -> Bool
  | .any, _ => true
  | .ipv4, address => address.isIp4
  | .ipv6, address => address.isIp6

def text : Family -> String
  | .any => "any"
  | .ipv4 => "ipv4"
  | .ipv6 => "ipv6"

def ofText? (text : String) : Option Family :=
  [any, ipv4, ipv6].find? (·.text == text)

end Family

end SniffingRelay
