import SniffingRelay.Dial.Error
import SniffingRelay.Ip.Prefix

set_option autoImplicit false

-- A dialer connects from the host's own address, or from an IPv6 address that holds the client's
-- IPv4 address. It tries the addresses of a destination that it may use in their order and takes
-- the first that answers.

namespace SniffingRelay

-- Milliseconds allowed for a connection by default.
def defaultDialLimit : Nat := 3000

structure Dialer where
  -- The address to connect from; the host's choice when absent.
  source : Option Ip6
  -- Milliseconds until the attempt is given up.
  limit : Nat
  deriving DecidableEq, Repr

/-- Where outgoing connections start. -/
inductive Origin where
  | ownAddress
  | within (subnet : Subnet)
  deriving DecidableEq, Repr

namespace Origin

def ofCidr? : Option String -> Except PrefixError Origin
  | none => .ok .ownAddress
  | some text => do return .within (<- Subnet.ofCidr text)

-- The IPv4 address of a client, also one that came over IPv6 in mapped form.
def clientIp4? : Ip -> Option Ip4
  | .v4 address => some address
  | .v6 address => address.toIp4?

def sourceFor (origin : Origin) (client : Ip) : Except DialError (Option Ip6) :=
  match origin with
  | .ownAddress => .ok none
  | .within subnet =>
      match clientIp4? client with
      | none => .error (.notEmbeddable client)
      | some address => .ok (some (subnet.synthesize address))

def dialerFor (origin : Origin) (limit : Nat) (client : SocketAddress) : Except DialError Dialer := do
  return { source := <- origin.sourceFor client.ip, limit }

end Origin

/-- How an attempt to reach one address failed. -/
inductive Refusal where
  | bind (fault : Fault)
  | connect (fault : Fault)
  deriving DecidableEq, Repr

namespace Dialer

-- A source address can only reach IPv6 destinations.
def mayTry (dialer : Dialer) (family : Family) (address : SocketAddress) : Bool :=
  family.admits address && (dialer.source.isNone || address.isIp6)

def targets (dialer : Dialer) (family : Family) (found : List SocketAddress) : List SocketAddress :=
  found.filter (dialer.mayTry family)

-- Binding comes before connecting, and only with a source address.
def failure (dialer : Dialer) (target : SocketAddress) : Refusal -> DialError
  | .connect fault => .connect target fault
  | .bind fault =>
      match dialer.source with
      | some source => .bind (.v6 source 0 0) fault
      | none => .connect target fault

/-- The addresses attempted, in order, and how the last attempt ended. -/
structure Attempts where
  tried : List SocketAddress
  outcome : Except DialError SocketAddress

-- The outcomes are those of the attempts in their order.
def tryAll (dialer : Dialer) (outcomes : Nat -> Option Refusal) (last : DialError) :
    List SocketAddress -> Attempts
  | [] => ⟨[], .error last⟩
  | target :: later =>
      match outcomes 0 with
      | none => ⟨[target], .ok target⟩
      | some refusal =>
          let rest := tryAll dialer (outcomes ∘ Nat.succ) (dialer.failure target refusal) later
          { rest with tried := target :: rest.tried }

def connect (dialer : Dialer) (host : String) (family : Family)
    (found : Except Fault (List SocketAddress)) (outcomes : Nat -> Option Refusal) : Attempts :=
  match found with
  | .error fault => ⟨[], .error (.resolve host fault)⟩
  | .ok addresses =>
      tryAll dialer outcomes (.noAddresses host family) (dialer.targets family addresses)

end Dialer

end SniffingRelay
