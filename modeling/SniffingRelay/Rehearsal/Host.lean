import SniffingRelay.Dial.Dialer
import SniffingRelay.Rehearsal.Resolver

set_option autoImplicit false

namespace SniffingRelay

structure Host where
  -- Whether the loopback device is up. It is the only device, and number 1.
  looped : Bool
  -- Whether the ports below 1024 may be bound.
  privileged : Bool
  deriving DecidableEq, Repr

namespace Host

def isolated : Host where
  looped := false
  privileged := false

def loopback : Host where
  looped := true
  privileged := true

def own (host : Host) : List Ip :=
  if host.looped then [.v6 .loopback, .v4 .loopback] else [.v4 .loopback]

def lookup (host : Host) (name : String) (port : UInt16) : Except Fault (List SocketAddress) :=
  Resolver.lookup host.own name port

-- While no device is up there are no routes, and without routes no IPv4 address is foreign.
def owns4 (host : Host) (address : Ip4) : Bool :=
  !host.looped || address = .unspecified || address.isLoopback

def owns6 (host : Host) (address : Ip6) : Bool :=
  address = .unspecified || (host.looped && address = .loopback)

def foreign4? (host : Host) (address : Ip4) : Option Fault :=
  if host.owns4 address then none else some .notAssignable

-- A link-local address needs a device that exists.
def foreign6? (host : Host) (address : Ip6) (scope : UInt32) : Option Fault :=
  match address.toIp4? with
  | some inner => host.foreign4? inner
  | none =>
      if address.isLinkLocal && scope = 0 then some .invalidArgument
      else if address.isLinkLocal && scope ≠ 1 then some .noDevice
      else if host.owns6 address then none
      else some .notAssignable

def reserved? (host : Host) (port : UInt16) : Option Fault :=
  if !host.privileged && 0 < port && port < 1024 then some .forbidden else none

/-- The fault of binding a socket, if it cannot be bound. The port is looked at before the address
if that is an IPv6 address. -/
def bind (host : Host) : SocketAddress -> Option Fault
  | .v4 address port => host.foreign4? address <|> host.reserved? port
  | .v6 address port scope =>
      if address.isMulticast then some .invalidArgument
      else host.reserved? port <|> host.foreign6? address scope

def reaches (host : Host) (address : Ip) : Bool :=
  host.looped && (address = .v4 .loopback || address = .v6 .loopback)

-- The IPv4 address that a socket is bound to, if it is bound to one in IPv6 form.
def source4? (source : Option Ip6) : Option Ip4 := source.bind Ip6.toIp4?

-- No IPv4 connection can come from an address for many.
def isForMany (address : Ip4) : Bool :=
  address.isMulticast || address = .broadcast

def vacant4 (source : Option Ip4) : Fault :=
  if source.any isForMany then .invalidArgument else .unreachable

/-- What connecting to an address comes to if nothing listens there. From a socket bound to an IPv4
address, `::` is that host itself, and no other IPv6 address has a route. -/
def vacant (host : Host) (source : Option Ip6) (target : SocketAddress) : Fault :=
  if host.reaches target.ip then .refused
  else
    match target with
    | .v4 .. => vacant4 (source4? source)
    | .v6 address _ scope =>
        if address.toIp4?.isSome then vacant4 (source4? source)
        else if address.isMulticast then .unreachable
        else if address.isLinkLocal && scope = 0 then .invalidArgument
        else if (source4? source).isSome then
          if address = .unspecified then vacant4 (source4? source) else .unreachable
        else .notAssignable

def connect (host : Host) (listening : Option SocketAddress) (source : Option Ip6)
    (target : SocketAddress) : Option Refusal :=
  match source.bind fun source => host.bind (.v6 source 0 0) with
  | some fault => some (.bind fault)
  | none =>
      if host.reaches target.ip && listening = some target then none
      else some (.connect (host.vacant source target))

end Host

end SniffingRelay
