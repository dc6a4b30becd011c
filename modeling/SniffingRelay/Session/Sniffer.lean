import SniffingRelay.Session.Failure
import SniffingRelay.Tls.Handshake

set_option autoImplicit false

namespace SniffingRelay

inductive Sniffer where
  | tls (state : Tls.Handshake)
  | http (state : Http.RequestHead)
  deriving DecidableEq, Repr

namespace Sniffer

def start : Protocol -> Sniffer
  | .tls => .tls {}
  | .http => .http {}

def ofHello : Except Tls.HelloError Tls.Hello -> Except Failure String
  | .ok hello => .ok hello.serverName
  | .error error => .error (.hello error)

def ofHostHeader : Except Http.HeaderError Http.HostHeader -> Except Failure String
  | .ok header => if header.complete then .ok header.host else .error .incompleteHeaders
  | .error error => .error (.headers error)

def reader : Reader Sniffer (Except Failure String) where
  room
    | .tls state => Tls.handshakeReader.room state
    | .http state => (Http.headReader Http.lineLimit).room state
  push
    | .tls state, byte => (Tls.handshakeReader.push state byte).map .tls ofHello
    | .http state, byte => ((Http.headReader Http.lineLimit).push state byte).map .http ofHostHeader
  finish
    | .tls state, stop => ofHello (Tls.handshakeReader.finish state stop)
    | .http state, stop => ofHostHeader ((Http.headReader Http.lineLimit).finish state stop)
  resume
    | .tls _ => none
    | .http state => ((Http.headReader Http.lineLimit).resume state).map .http

end Sniffer

end SniffingRelay
