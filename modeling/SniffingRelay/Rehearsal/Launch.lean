import SniffingRelay.Launch.Startup
import SniffingRelay.Rehearsal.Host

set_option autoImplicit false

namespace SniffingRelay

structure Launch where
  exitCode : Nat
  output : String := ""
  complaints : String := ""
  -- The notices shown.
  notices : List Notice := []
  format : LogFormat := .json
  deriving DecidableEq, Repr

namespace Launch

structure State where
  told : List Notice := []
  bound : List SocketAddress := []
  deriving DecidableEq, Repr

-- Whether two listeners cannot both have their addresses. Port 0 stands for any free port.
def clash (one other : SocketAddress) : Bool :=
  one.port ≠ 0 && one.port = other.port &&
    match one.ip.unmapped, other.ip.unmapped with
    | .v4 a, .v4 b => a = b || a = .unspecified || b = .unspecified
    | .v6 a, .v6 b => a = b || a = .unspecified || b = .unspecified
    | .v4 _, .v6 b => b = .unspecified
    | .v6 a, .v4 _ => a = .unspecified

def tell (notice : Notice) : StateM State Unit :=
  modify fun state => { state with told := state.told ++ [notice] }

def bind (host : Host) (address : SocketAddress) : StateM State (Except Fault Unit) := do
  match host.bind address with
  | some fault => return .error fault
  | none =>
      if (<- get).bound.any (clash address) then return .error .addressTaken
      else
        modify fun state => { state with bound := state.bound ++ [address] }
        return .ok ()

def run (host : Host) (settings : Settings) : Except Complaint Unit × List Notice :=
  let (result, state) := (Startup.start tell (bind host) (fun _ _ _ => pure ()) settings).run {}
  (result, state.told)

def play (host : Host) (arguments : List String) (environment : String -> Option String) : Launch :=
  match CommandLine.read arguments environment with
  | .error error =>
      { exitCode := Startup.usageCode error
        output := Startup.usageOutput error
        complaints := Startup.usageComplaint error }
  | .ok settings =>
      let reading := settings.filter environment
      let complaints := Startup.filterComplaints reading
      match reading.filter, run host settings with
      | none, _ => { exitCode := Startup.breakCode, complaints }
      | some filter, (.error complaint, told) =>
          { exitCode := Startup.complaintCode
            complaints := complaints ++ complaint.text
            notices := told.filter filter.shows
            format := settings.logFormat }
      | some filter, (.ok (), told) =>
          { exitCode := 0
            complaints
            notices := (told ++ [Notice.stopping]).filter filter.shows
            format := settings.logFormat }

end Launch

end SniffingRelay
