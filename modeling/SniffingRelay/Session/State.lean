import SniffingRelay.Dial.Dialer
import SniffingRelay.Session.Half
import SniffingRelay.Session.Ledger
import SniffingRelay.Session.Sniffer
import SniffingRelay.Session.Watch

set_option autoImplicit false

-- A session takes one client from its first byte to the end. Its phase says what it waits for, and
-- until when it waits.

namespace SniffingRelay

/-- What a session that reached its backend reports. -/
structure Summary where
  hostname : String
  -- The address that was dialed. A socket that can no longer tell its peer would report none; here
  -- every connected socket can.
  backend : SocketAddress
  bytesToBackend : Nat
  bytesFromBackend : Nat
  deriving DecidableEq, Repr

namespace Session

inductive DialStage where
  | resolving
  | trying (target : SocketAddress) (later : List SocketAddress)
  deriving DecidableEq, Repr

structure Dialing where
  host : String
  dialer : Dialer
  stage : DialStage := .resolving
  deriving DecidableEq, Repr

structure Replaying where
  host : String
  backend : SocketAddress
  unsent : List UInt8
  deriving DecidableEq, Repr

structure Splice where
  host : String
  backend : SocketAddress
  -- Bytes that the backend was sent before.
  replayed : Nat
  up : Half := {}
  down : Half := {}
  watch : Option Watch := none
  deriving DecidableEq, Repr

inductive RejectionStage where
  | sending (unsent : List UInt8)
  | flushing
  | shutting
  deriving DecidableEq, Repr

inductive Phase where
  | sniffing (sniffer : Sniffer) (deadline : Nat)
  | dialing (dialing : Dialing) (deadline : Nat)
  | replaying (replaying : Replaying)
  | splicing (splice : Splice)
  | rejecting (failure : Failure) (stage : RejectionStage) (deadline : Nat)
  | over (result : Except Failure Summary)

/-- What a session waits for. -/
inductive Want where
  | read (side : Side) (room : Nat)
  | write (side : Side) (bytes : List UInt8)
  | flush
  | shut (side : Side)
  | lookup (host : String) (port : UInt16)
  | connect (source : Option Ip6) (target : SocketAddress)
  deriving DecidableEq, Repr

end Session

/-- The service, and the dialer it gives a client for a host. -/
structure Context where
  service : Service
  dialer : String -> Except DialError Dialer

structure Session where
  -- Milliseconds since the beginning.
  clock : Nat := 0
  phase : Session.Phase
  ledger : Ledger := {}

namespace Session

def start (context : Context) (now : Nat) : Session where
  clock := now
  phase := .sniffing (.start context.service.protocol) (now + context.service.sniffLimit)

def result? (session : Session) : Option (Except Failure Summary) :=
  match session.phase with
  | .over result => some result
  | _ => none

def Splice.half (splice : Splice) : Side -> Half
  | .client => splice.up
  | .backend => splice.down

-- The half that reads from a side wants to write to the other.
def Splice.want? (splice : Splice) (source : Side) : Option Want :=
  match (splice.half source).stage with
  | .reading => some (.read source Half.chunkLimit)
  | .writing _ unsent => some (.write source.other unsent)
  | .shutting => some (.shut source.other)
  | .finished => none

def wants (context : Context) (session : Session) : List Want :=
  match session.phase with
  | .sniffing sniffer _ => [.read .client (Sniffer.reader.room sniffer)]
  | .dialing { host, stage := .resolving, .. } _ => [.lookup host context.service.targetPort]
  | .dialing { dialer, stage := .trying target _, .. } _ => [.connect dialer.source target]
  | .replaying replaying => [.write .backend replaying.unsent]
  | .splicing splice => (splice.want? .client).toList ++ (splice.want? .backend).toList
  | .rejecting _ (.sending unsent) _ => [.write .client unsent]
  | .rejecting _ .flushing _ => [.flush]
  | .rejecting _ .shutting _ => [.shut .client]
  | .over _ => []

-- When the session acts even if nothing happens.
def alarm? (session : Session) : Option Nat :=
  match session.phase with
  | .sniffing _ deadline | .dialing _ deadline | .rejecting _ _ deadline => some deadline
  | .splicing splice => splice.watch.map Watch.wake
  | .replaying _ | .over _ => none

end Session

end SniffingRelay
