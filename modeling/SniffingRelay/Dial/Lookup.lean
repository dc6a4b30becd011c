import SniffingRelay.Fault
import SniffingRelay.Ip.SocketAddress

set_option autoImplicit false

-- Address literals stand for themselves, and a name with a zero byte cannot even be asked for.

namespace SniffingRelay.Lookup

def literal? (name : String) (port : UInt16) : Option SocketAddress :=
  match Ip4.ofText? name, Ip6.ofText? name with
  | some address, _ => some (.v4 address port)
  | none, some address => some (.v6 address port 0)
  | none, none => none

def withoutResolver? (name : String) (port : UInt16) :
    Option (Except Fault (List SocketAddress)) :=
  match literal? name port with
  | some address => some (.ok [address])
  | none => if '\x00' ∈ name.toList then some (.error .zeroByteInName) else none

end SniffingRelay.Lookup
