import SniffingRelay.Ip.Printer
import SniffingRelay.Ip.Reader

set_option autoImplicit false

namespace SniffingRelay

inductive SocketAddress where
  | v4 (address : Ip4) (port : UInt16)
  | v6 (address : Ip6) (port : UInt16) (scope : UInt32)
  deriving DecidableEq, Repr

namespace SocketAddress

def ip : SocketAddress -> Ip
  | .v4 address _ => .v4 address
  | .v6 address _ _ => .v6 address

def port : SocketAddress -> UInt16
  | .v4 _ port => port
  | .v6 _ port _ => port

def isIp4 : SocketAddress -> Bool
  | .v4 .. => true
  | .v6 .. => false

def isIp6 : SocketAddress -> Bool
  | .v4 .. => false
  | .v6 .. => true

def ofIp (port : UInt16) : Ip -> SocketAddress
  | .v4 address => .v4 address port
  | .v6 address => .v6 address port 0

def text : SocketAddress -> String
  | .v4 address port => address.text ++ ":" ++ Numeral.decimal port.toNat
  | .v6 address port scope =>
      let scopeText := if scope = 0 then "" else "%" ++ Numeral.decimal scope.toNat
      "[" ++ address.text ++ scopeText ++ "]:" ++ Numeral.decimal port.toNat

open TextReader

def readPort : TextReader UInt16 := fun text => do
  let (port, text) <- number 10 none true 0xffff (<- char ':' text)
  return (UInt16.ofNat port, text)

def readScope (text : List Char) : UInt32 × List Char :=
  match (char '%' text).bind (number 10 none true 0xffffffff) with
  | some (scope, rest) => (UInt32.ofNat scope, rest)
  | none => (0, text)

def readIp4 : TextReader SocketAddress := fun text => do
  let (address, text) <- Ip4.read text
  let (port, text) <- readPort text
  return (.v4 address port, text)

def readIp6 : TextReader SocketAddress := fun text => do
  let (address, text) <- Ip6.read (<- char '[' text)
  let (scope, text) := readScope text
  let (port, text) <- readPort (<- char ']' text)
  return (.v6 address port scope, text)

def read : TextReader SocketAddress := fun text =>
  readIp4 text <|> readIp6 text

def ofText? (text : String) : Option SocketAddress := whole read text

end SocketAddress

end SniffingRelay
