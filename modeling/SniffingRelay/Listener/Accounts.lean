import SniffingRelay.Session.State

set_option autoImplicit false

namespace SniffingRelay

structure Accounts where
  accepted : Nat := 0
  active : Nat := 0
  closed : Nat := 0
  sniffFailed : Nat := 0
  policyRejected : Nat := 0
  backendFailed : Nat := 0
  replayFailed : Nat := 0
  proxied : Nat := 0
  bytesToBackend : Nat := 0
  bytesFromBackend : Nat := 0
  deriving DecidableEq, Repr

inductive Entry where
  | accepted
  | entered
  | proxied
  | bytesToBackend (count : Nat)
  | bytesFromBackend (count : Nat)
  | rejected (reason : FailureClass)
  | left
  | closed
  deriving DecidableEq, Repr

namespace Accounts

def reject (accounts : Accounts) : FailureClass -> Accounts
  | .malformedInput | .unsupportedFeature =>
      { accounts with sniffFailed := accounts.sniffFailed + 1 }
  | .policyRejected => { accounts with policyRejected := accounts.policyRejected + 1 }
  | .backendUnavailable => { accounts with backendFailed := accounts.backendFailed + 1 }
  | .replayFailed => { accounts with replayFailed := accounts.replayFailed + 1 }

def post (accounts : Accounts) : Entry -> Accounts
  | .accepted => { accounts with accepted := accounts.accepted + 1 }
  | .entered => { accounts with active := accounts.active + 1 }
  | .proxied => { accounts with proxied := accounts.proxied + 1 }
  | .bytesToBackend count =>
      { accounts with bytesToBackend := accounts.bytesToBackend + count }
  | .bytesFromBackend count =>
      { accounts with bytesFromBackend := accounts.bytesFromBackend + count }
  | .rejected reason => accounts.reject reason
  | .left => { accounts with active := accounts.active - 1 }
  | .closed => { accounts with closed := accounts.closed + 1 }

def postAll (accounts : Accounts) (entries : List Entry) : Accounts :=
  entries.foldl post accounts

def outcomes (accounts : Accounts) : Nat :=
  accounts.proxied + accounts.sniffFailed + accounts.policyRejected + accounts.backendFailed
    + accounts.replayFailed

end Accounts

namespace Entry

-- Made before the connection has a task of its own.
def onArrival : List Entry := [.accepted, .entered]

def ofResult : Except Failure Summary -> List Entry
  | .ok summary =>
      [.proxied, .bytesToBackend summary.bytesToBackend, .bytesFromBackend summary.bytesFromBackend]
  | .error failure => [.rejected failure.failureClass]

-- Made by the task of a connection that is over.
def onResult (result : Except Failure Summary) : List Entry :=
  ofResult result ++ [.left, .closed]

end Entry

end SniffingRelay
