import SniffingRelay.Text.Numeral

set_option autoImplicit false

namespace SniffingRelay

inductive Fault.Kind where
  | connectionRefused
  | connectionReset
  | connectionAborted
  | notConnected
  | networkUnreachable
  | addressInUse
  | addressNotAvailable
  | brokenPipe
  | permissionDenied
  | invalidInput
  | invalidData
  | timedOut
  | writeZero
  | interrupted
  | unexpectedEnd
  | notFound
  | other
  deriving DecidableEq, Repr

def Fault.Kind.text : Fault.Kind -> String
  | .connectionRefused => "connection refused"
  | .connectionReset => "connection reset"
  | .connectionAborted => "connection aborted"
  | .notConnected => "not connected"
  | .networkUnreachable => "network unreachable"
  | .addressInUse => "address in use"
  | .addressNotAvailable => "address not available"
  | .brokenPipe => "broken pipe"
  | .permissionDenied => "permission denied"
  | .invalidInput => "invalid input parameter"
  | .invalidData => "invalid data"
  | .timedOut => "timed out"
  | .writeZero => "write zero"
  | .interrupted => "operation interrupted"
  | .unexpectedEnd => "unexpected end of file"
  | .notFound => "entity not found"
  | .other => "other error"

/-- A fault is told in its own words, if it has any. -/
structure Fault where
  kind : Fault.Kind
  words : Option String := none
  deriving DecidableEq, Repr

namespace Fault

def message (fault : Fault) : String := fault.words.getD fault.kind.text

def isInterruption (fault : Fault) : Bool := fault.kind = .interrupted

-- The stream ended inside a read of a fixed number of bytes.
def earlyEnd : Fault := ⟨.unexpectedEnd, some "early eof"⟩

def brokenPipe : Fault := ⟨.brokenPipe, none⟩

def systemFaults : List (Nat × Fault.Kind × String) :=
  [(4, .interrupted, "Interrupted system call"),
    (13, .permissionDenied, "Permission denied"),
    (19, .other, "No such device"),
    (22, .invalidInput, "Invalid argument"),
    (32, .brokenPipe, "Broken pipe"),
    (98, .addressInUse, "Address already in use"),
    (99, .addressNotAvailable, "Cannot assign requested address"),
    (101, .networkUnreachable, "Network is unreachable"),
    (103, .connectionAborted, "Software caused connection abort"),
    (104, .connectionReset, "Connection reset by peer"),
    (107, .notConnected, "Transport endpoint is not connected"),
    (110, .timedOut, "Connection timed out"),
    (111, .connectionRefused, "Connection refused"),
    (113, .other, "No route to host")]

def ofCode (code : Nat) : Fault :=
  let number := "os error " ++ Numeral.decimal code
  match systemFaults.lookup code with
  | some (kind, text) => ⟨kind, some (text ++ " (" ++ number ++ ")")⟩
  | none => ⟨.other, some number⟩

def forbidden : Fault := ofCode 13

def noDevice : Fault := ofCode 19

def invalidArgument : Fault := ofCode 22

def addressTaken : Fault := ofCode 98

def notAssignable : Fault := ofCode 99

def unreachable : Fault := ofCode 101

def reset : Fault := ofCode 104

def refused : Fault := ofCode 111

def unresolved (reason : String) : Fault :=
  ⟨.other, some ("failed to lookup address information: " ++ reason)⟩

def nameUnknown : Fault := unresolved "Name or service not known"

def noNameServer : Fault := unresolved "Temporary failure in name resolution"

def zeroByteInName : Fault :=
  ⟨.invalidInput, some "file name contained an unexpected NUL byte"⟩

end Fault

end SniffingRelay
