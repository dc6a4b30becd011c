import SniffingRelay.Session.Step

set_option autoImplicit false

-- The far end of a simulated connection. Each direction holds a limited number of bytes. What a
-- peer sends beyond that gets on the way when the peer is given a turn, and so is what arrived
-- read.

namespace SniffingRelay

inductive Presence where
  | present
  -- Both directions were closed: reads end, writes fail.
  | gone
  -- The connection was torn down: reads and writes fail.
  | reset
  deriving DecidableEq, Repr

structure Peer where
  capacity : Nat := 0x100000
  -- Whether the peer reads what arrives.
  listening : Bool := true
  -- Whether the peer sends back what it reads.
  echoing : Bool := false
  presence : Presence := .present
  -- Bytes that are to be sent and are not on the way.
  unsent : List UInt8 := []
  -- Bytes on the way, which the session has not read.
  underway : List UInt8 := []
  -- Whether the peer will send no more.
  ending : Bool := false
  -- Bytes that arrived and were not read.
  incoming : List UInt8 := []
  inbox : Transcript := {}
  sawEnd : Bool := false
  -- Whether the session has let go of the connection.
  released : Bool := false
  -- Whether bytes sent could not get on the way any more.
  refused : Bool := false
  deriving Repr

namespace Peer

def canPush (peer : Peer) : Bool :=
  !peer.unsent.isEmpty && peer.underway.length < peer.capacity

def push (peer : Peer) : Peer :=
  if peer.unsent.isEmpty then peer
  else
    let (pushed, unsent) := peer.unsent.splitAt (peer.capacity - peer.underway.length)
    { peer with unsent, underway := peer.underway ++ pushed }

def send (peer : Peer) (bytes : List UInt8) : Peer :=
  push { peer with unsent := peer.unsent ++ bytes }

def shut (peer : Peer) : Peer := { peer with ending := true }

-- Only what is on the way to the session still arrives.
def leave (peer : Peer) (presence : Presence) : Peer :=
  { peer with presence, ending := true, unsent := [], incoming := [] }

def hasNews (peer : Peer) : Bool := peer.listening && !peer.incoming.isEmpty

def hear (peer : Peer) : Peer :=
  if peer.hasNews then
    let heard := { peer with inbox := peer.inbox.append peer.incoming, incoming := [] }
    if peer.echoing then heard.send peer.incoming else heard
  else peer

def hearEnd (peer : Peer) : Peer :=
  { peer with sawEnd := true, ending := peer.ending || peer.echoing }

def release (peer : Peer) : Peer :=
  { peer.hearEnd with released := true, refused := !peer.unsent.isEmpty, unsent := [], underway := [] }

-- All that the peer reads in the end, also if it did not listen before.
def received (peer : Peer) : List UInt8 :=
  peer.inbox.toList ++ peer.incoming

def read? (peer : Peer) (side : Side) (room : Nat) : Option (Session.Event × Peer) :=
  match peer.underway.splitAt room with
  | ([], _) =>
      if peer.presence = .reset then some (.readFailed side .reset, peer)
      else if peer.ending && peer.underway.isEmpty && peer.unsent.isEmpty then
        some (.ended side, peer)
      else none
  | (taken, underway) => some (.received side taken, { peer with underway })

def write? (peer : Peer) (side : Side) (bytes : List UInt8) : Option (Session.Event × Peer) :=
  match peer.presence with
  | .gone => some (.writeFailed side .brokenPipe, peer)
  | .reset => some (.writeFailed side .reset, peer)
  | .present =>
      match bytes.take (peer.capacity - peer.incoming.length) with
      | [] => none
      | taken => some (.accepted side taken.length, { peer with incoming := peer.incoming ++ taken })

end Peer

end SniffingRelay
