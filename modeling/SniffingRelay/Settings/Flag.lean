import SniffingRelay.Settings.Basic

set_option autoImplicit false

namespace SniffingRelay

inductive Flag where
  | tlsListen
  | tlsPermitSuffix
  | tlsBackendPort
  | tlsBackendNetwork
  | httpListen
  | httpPermitSuffix
  | httpBackendPort
  | httpBackendNetwork
  | v4Subnet
  | sniffTimeout
  | dialTimeout
  | idleTimeout
  | logLevel
  | logFormat
  deriving DecidableEq, Repr

/-- Why a text is not a value of a flag. -/
inductive ValueError where
  | notAChoice
  | notANumber
  deriving DecidableEq, Repr

namespace Flag

-- In the order in which environment variables are looked up.
def all : List Flag :=
  [tlsListen, tlsPermitSuffix, tlsBackendPort, tlsBackendNetwork, httpListen, httpPermitSuffix,
    httpBackendPort, httpBackendNetwork, v4Subnet, sniffTimeout, dialTimeout, idleTimeout,
    logLevel, logFormat]

def name : Flag -> String
  | tlsListen => "tls-listen"
  | tlsPermitSuffix => "tls-permit-suffix"
  | tlsBackendPort => "tls-backend-port"
  | tlsBackendNetwork => "tls-backend-network"
  | httpListen => "http-listen"
  | httpPermitSuffix => "http-permit-suffix"
  | httpBackendPort => "http-backend-port"
  | httpBackendNetwork => "http-backend-network"
  | v4Subnet => "v4-subnet"
  | sniffTimeout => "sniff-timeout-ms"
  | dialTimeout => "dial-timeout-ms"
  | idleTimeout => "idle-timeout-secs"
  | logLevel => "log-level"
  | logFormat => "log-format"

def ofName? (name : String) : Option Flag :=
  all.find? (·.name == name)

def environmentName (flag : Flag) : String :=
  "FOURTOSIX_" ++ String.ofList (flag.name.toList.map fun c => if c = '-' then '_' else c.toUpper)

-- A port may carry a sign; only zero can be written with a minus.
def readPort (text : String) : Except ValueError UInt16 :=
  let value := match text.toList with
    | '-' :: c :: digits => Numeral.accumulate 0 0 (c :: digits)
    | digits => Numeral.read 0xffff digits
  match value with
  | .ok port => .ok (UInt16.ofNat port)
  | .error _ => .error .notANumber

def readTime (text : String) : Except ValueError Nat :=
  match Numeral.ofText 0xffffffffffffffff text with
  | .ok time => .ok time
  | .error _ => .error .notANumber

def readChoice {A : Type} (choice? : String -> Option A) (text : String) : Except ValueError A :=
  match choice? text with
  | some value => .ok value
  | none => .error .notAChoice

def set (flag : Flag) (text : String) (settings : Settings) : Except ValueError Settings :=
  let { tls, http, .. } := settings
  match flag with
  | tlsListen => .ok { settings with tls := { tls with listen := text } }
  | tlsPermitSuffix => .ok { settings with tls := { tls with permitted := text } }
  | tlsBackendPort => do
      return { settings with tls := { tls with backendPort := <- readPort text } }
  | tlsBackendNetwork => do
      return { settings with tls := { tls with family := <- readChoice Family.ofText? text } }
  | httpListen => .ok { settings with http := { http with listen := text } }
  | httpPermitSuffix => .ok { settings with http := { http with permitted := text } }
  | httpBackendPort => do
      return { settings with http := { http with backendPort := <- readPort text } }
  | httpBackendNetwork => do
      return { settings with http := { http with family := <- readChoice Family.ofText? text } }
  | v4Subnet => .ok { settings with subnet := some text }
  | sniffTimeout => do return { settings with sniffMilliseconds := <- readTime text }
  | dialTimeout => do return { settings with dialMilliseconds := <- readTime text }
  | idleTimeout => do return { settings with idleSeconds := some (<- readTime text) }
  | logLevel => .ok { settings with logLevel := text }
  | logFormat => do return { settings with logFormat := <- readChoice LogFormat.ofText? text }

end Flag

end SniffingRelay
