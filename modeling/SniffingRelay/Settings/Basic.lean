import SniffingRelay.Dial.Dialer
import SniffingRelay.Session.Service
import SniffingRelay.Settings.ListenAddress

set_option autoImplicit false

namespace SniffingRelay

inductive LogFormat where
  | json
  | text
  deriving DecidableEq, Repr

def LogFormat.ofText? : String -> Option LogFormat
  | "json" => some .json
  | "text" => some .text
  | _ => none

structure ListenerSettings where
  listen : String
  permitted : String := ""
  backendPort : UInt16
  family : Family := .any
  deriving DecidableEq, Repr

structure Settings where
  tls : ListenerSettings := { listen := ":443", backendPort := Protocol.tls.defaultPort }
  http : ListenerSettings := { listen := ":80", backendPort := Protocol.http.defaultPort }
  subnet : Option String := none
  sniffMilliseconds : Nat := 5000
  dialMilliseconds : Nat := defaultDialLimit
  idleSeconds : Option Nat := none
  logLevel : String := "info"
  logFormat : LogFormat := .json
  deriving DecidableEq, Repr

inductive SettingsError where
  | badListen (protocol : Protocol) (error : ListenAddressError)
  | nothingEnabled
  deriving DecidableEq, Repr

def SettingsError.causes : SettingsError -> List String
  | .badListen protocol error => ("invalid --" ++ protocol.text ++ "-listen") :: error.causes
  | .nothingEnabled => ["no listeners enabled; set --tls-listen or --http-listen"]

namespace Settings

def listener (settings : Settings) : Protocol -> ListenerSettings
  | .tls => settings.tls
  | .http => settings.http

def service? (settings : Settings) (protocol : Protocol) :
    Except SettingsError (Option Service) :=
  let listener := settings.listener protocol
  match ListenAddress.read listener.listen with
  | .error error => .error (.badListen protocol error)
  | .ok none => .ok none
  | .ok (some address) =>
      .ok (some {
        address, protocol
        allowList := .ofText listener.permitted
        backendPort := some listener.backendPort
        family := listener.family
        sniffLimit := settings.sniffMilliseconds
        idleLimit := settings.idleSeconds.map (· * 1000) })

-- The enabled services; there has to be one.
def services (settings : Settings) : Except SettingsError (List Service) := do
  let tls <- settings.service? .tls
  let http <- settings.service? .http
  match tls.toList ++ http.toList with
  | [] => throw .nothingEnabled
  | services => return services

def origin (settings : Settings) : Except PrefixError Origin :=
  Origin.ofCidr? settings.subnet

end Settings

end SniffingRelay
