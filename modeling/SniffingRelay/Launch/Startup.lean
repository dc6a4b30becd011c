import SniffingRelay.Launch.NoticeFilter
import SniffingRelay.Settings.CommandLine
import SniffingRelay.Text.Pieces

set_option autoImplicit false

namespace SniffingRelay

/-- What went wrong, and why, from the outermost cause down. -/
structure Complaint where
  problem : String
  causes : List String := []
  deriving DecidableEq, Repr

namespace Complaint

def ofCauses : List String -> Complaint
  | [] => { problem := "" }
  | problem :: causes => { problem, causes }

-- A text whose first line starts in one way and all others in another.
def indent (first others text : String) : String :=
  first ++ ("\n" ++ others).intercalate (Pieces.ofText '\n' text)

def columnNumber (index : Nat) : String :=
  let number := Numeral.decimal index
  "".pushn ' ' (5 - number.length) ++ number

-- Causes are numbered if there is more than one.
def causeLines : List String -> List String
  | [cause] => [indent "    " "    " cause]
  | causes => causes.zipIdx.map fun (cause, index) =>
      indent (columnNumber index ++ ": ") "       " cause

def text (complaint : Complaint) : String :=
  let why := if complaint.causes.isEmpty then []
    else "" :: "Caused by:" :: causeLines complaint.causes
  "\n".intercalate (("Error: " ++ complaint.problem) :: why) ++ "\n"

end Complaint

def Settings.filter (settings : Settings) (environment : String -> Option String) :
    NoticeFilter.Reading :=
  NoticeFilter.choose (environment "RUST_LOG") settings.logLevel

namespace Startup

def versionText : String := "fourtosix 0.1.0\n"

def usageText : String :=
  "\n".intercalate ("Usage: fourtosix [OPTIONS]" :: "" :: "Options:" ::
    Flag.all.map (fun flag => "      --" ++ flag.name ++ " <VALUE> [env: " ++ flag.environmentName ++ "]")
    ++ ["  -h, --help", "  -V, --version"]) ++ "\n"

def usageCode : UsageError -> Nat
  | .helpWanted | .versionWanted => 0
  | _ => 2

def usageOutput : UsageError -> String
  | .helpWanted => usageText
  | .versionWanted => versionText
  | _ => ""

def usageComplaint : UsageError -> String
  | .helpWanted | .versionWanted => ""
  | error => "error: " ++ error.message ++ "\n"

-- The exit code after a complaint.
def complaintCode : Nat := 1

def breakCode : Nat := 101

def filterComplaints (reading : NoticeFilter.Reading) : String :=
  String.join (reading.rejected.map fun rejected => rejected.message ++ "\n")

variable {m : Type -> Type} [Monad m] {S : Type}

def startService (tell : Notice -> m Unit) (bind : SocketAddress -> m (Except Fault S))
    (service : Service) : m (Except Complaint S) := do
  if service.allowList.isOpen then tell .noSuffixes
  match <- bind service.address with
  | .error fault => do
      tell .bindFailed
      return .error {
        problem := "binding " ++ service.protocol.text ++ " listener on " ++ service.address.text
        causes := [fault.message] }
  | .ok socket => do
      tell .bound
      return .ok socket

def startServices (tell : Notice -> m Unit) (bind : SocketAddress -> m (Except Fault S))
    (run : Service -> S -> m Unit) : List Service -> m (Except Complaint Unit)
  | [] => return .ok ()
  | service :: later => do
      match <- startService tell bind service with
      | .error complaint => return .error complaint
      | .ok socket => do
          tell .started
          run service socket
          startServices tell bind run later

def start (tell : Notice -> m Unit) (bind : SocketAddress -> m (Except Fault S))
    (run : Origin -> Service -> S -> m Unit) (settings : Settings) :
    m (Except Complaint Unit) := do
  tell .starting
  match settings.services, settings.origin with
  | .error error, _ => return .error (.ofCauses error.causes)
  | .ok _, .error error =>
      return .error { problem := "invalid --v4-subnet", causes := [error.message] }
  | .ok services, .ok origin => do
      tell .configured
      if settings.subnet.isNone then tell .noSubnet
      startServices tell bind (run origin) services

end Startup

end SniffingRelay
