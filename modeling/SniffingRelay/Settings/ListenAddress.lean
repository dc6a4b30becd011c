import SniffingRelay.Ip.SocketAddress
import SniffingRelay.Text.Quoted

set_option autoImplicit false

namespace SniffingRelay

inductive ListenAddressError where
  | badPort (text : String) (flaw : Numeral.Flaw)
  | badAddress (text : String)
  deriving DecidableEq, Repr

def ListenAddressError.causes : ListenAddressError -> List String
  | .badPort text flaw =>
      ["invalid port in listen address " ++ Quoted.quote text, flaw.message]
  | .badAddress text =>
      ["invalid listen address " ++ Quoted.quote text, "invalid socket address syntax"]

namespace ListenAddress

def read (text : String) : Except ListenAddressError (Option SocketAddress) :=
  match text.toList with
  | [] => .ok none
  | ':' :: port =>
      match Numeral.read 0xffff port with
      | .ok port => .ok (some (.v4 .unspecified (UInt16.ofNat port)))
      | .error flaw => .error (.badPort text flaw)
  | _ =>
      match SocketAddress.ofText? text with
      | some address => .ok (some address)
      | none => .error (.badAddress text)

end ListenAddress

end SniffingRelay
