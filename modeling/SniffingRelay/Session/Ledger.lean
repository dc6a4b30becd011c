import SniffingRelay.Ip.SocketAddress
import SniffingRelay.Stream.Transcript

set_option autoImplicit false

namespace SniffingRelay

/-- The two ends that a session joins. -/
inductive Side where
  | client
  | backend
  deriving DecidableEq, Repr

def Side.other : Side -> Side
  | .client => .backend
  | .backend => .client

structure Traffic where
  -- The bytes taken from this side.
  heard : Transcript := {}
  -- The bytes that this side took.
  told : Transcript := {}
  -- How often telling this side that no more bytes come has returned, well or with a fault.
  shuts : Nat := 0
  deriving DecidableEq, Repr

structure Ledger where
  client : Traffic := {}
  backend : Traffic := {}
  -- The hosts for which a dialer was asked for.
  dials : List String := []
  -- The addresses that answered or refused, in order.
  tried : List SocketAddress := []
  deriving DecidableEq, Repr

namespace Ledger

def traffic (ledger : Ledger) : Side -> Traffic
  | .client => ledger.client
  | .backend => ledger.backend

def update (ledger : Ledger) (side : Side) (change : Traffic -> Traffic) : Ledger :=
  match side with
  | .client => { ledger with client := change ledger.client }
  | .backend => { ledger with backend := change ledger.backend }

def hear (ledger : Ledger) (side : Side) (bytes : List UInt8) : Ledger :=
  ledger.update side fun traffic => { traffic with heard := traffic.heard.append bytes }

def tell (ledger : Ledger) (side : Side) (bytes : List UInt8) : Ledger :=
  ledger.update side fun traffic => { traffic with told := traffic.told.append bytes }

def shut (ledger : Ledger) (side : Side) : Ledger :=
  ledger.update side fun traffic => { traffic with shuts := traffic.shuts + 1 }

def dial (ledger : Ledger) (host : String) : Ledger :=
  { ledger with dials := ledger.dials ++ [host] }

def attempt (ledger : Ledger) (target : SocketAddress) : Ledger :=
  { ledger with tried := ledger.tried ++ [target] }

end Ledger

end SniffingRelay
