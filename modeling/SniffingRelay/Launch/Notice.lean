import SniffingRelay.Settings.Basic

set_option autoImplicit false

namespace SniffingRelay

inductive Severity where
  | error
  | warning
  | information
  deriving DecidableEq, Repr

def Severity.text : Severity -> String
  | .error => "ERROR"
  | .warning => "WARN"
  | .information => "INFO"

def Severity.rank : Severity -> Nat
  | .error => 1
  | .warning => 2
  | .information => 3

inductive Notice where
  | starting
  | configured
  | noSubnet
  | noSuffixes
  | bound
  | started
  | bindFailed
  | stopping
  deriving DecidableEq, Repr

namespace Notice

def severity : Notice -> Severity
  | starting | configured | bound | started | stopping => .information
  | noSubnet | noSuffixes => .warning
  | bindFailed => .error

def target : Notice -> String
  | bound | started => "fourtosix_relay::proxy::listener"
  | starting | configured | noSubnet | noSuffixes | bindFailed | stopping => "fourtosix"

def message : Notice -> String
  | starting => "Starting fourtosix"
  | configured => "Configuration loaded"
  | noSubnet =>
      "No --v4-subnet configured; backends will see this host's address, not the client's"
  | noSuffixes => "No permitted suffixes configured; relaying to any hostname"
  | bound => "Listener bound"
  | started => "Listener started"
  | bindFailed => "Failed to bind listener"
  | stopping => "Shutting down"

def fields : Notice -> List String
  | starting | noSubnet | stopping => ["message"]
  | configured => ["message", "v4_subnet", "listener_count", "sniff_timeout_ms", "dial_timeout_ms"]
  | noSuffixes => ["message", "protocol"]
  | bound => ["message", "bind_addr", "protocol", "allow_list", "backend_port", "backend_network"]
  | started => ["message", "bind_addr", "protocol"]
  | bindFailed => ["message", "bind_addr", "protocol", "error"]

def line (notice : Notice) (time : String) : LogFormat -> String
  | .text => " ".intercalate [time, notice.severity.text, notice.target ++ ":", notice.message]
  | .json =>
      let entry (name value : String) : String := "\"" ++ name ++ "\":" ++ value
      let word (value : String) : String := "\"" ++ value ++ "\""
      let object (entries : List String) : String :=
        "\x7b" ++ ",".intercalate entries ++ "\x7d"
      object [
        entry "timestamp" (word time), entry "level" (word notice.severity.text),
        entry "fields" (object [entry "message" (word notice.message)]),
        entry "target" (word notice.target)]

end Notice

end SniffingRelay
