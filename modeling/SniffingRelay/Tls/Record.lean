import SniffingRelay.Stream.Reader
import SniffingRelay.Tls.Hello

set_option autoImplicit false

namespace SniffingRelay.Tls

def recordHeaderLength : Nat := 5

/-- The part of a record that has arrived. -/
inductive PartialRecord where
  | header (got : List UInt8)
  | fragment (length : Nat) (got : Array UInt8)
  deriving DecidableEq, Repr

namespace PartialRecord

def start : PartialRecord := .header []

def room : PartialRecord -> Nat
  | .header got => recordHeaderLength - got.length
  | .fragment length got => length - got.size

-- What a whole header says. The version is not looked at.
def ofHeader (wanted : UInt8) : List UInt8 -> Progress PartialRecord (Except HelloError (List UInt8))
  | [content, _, _, high, low] =>
      if content ≠ wanted then .settled (.error (.contentType content wanted))
      else
        let length := Hello.bigEndian [high, low]
        if length = 0 then .settled (.ok []) else .more (.fragment length #[])
  | short => .more (.header short)

def push (wanted : UInt8) (arrived : PartialRecord) (byte : UInt8) :
    Progress PartialRecord (Except HelloError (List UInt8)) :=
  match arrived with
  | .header got => ofHeader wanted (got ++ [byte])
  | .fragment length got =>
      let got := got.push byte
      if got.size < length then .more (.fragment length got) else .settled (.ok got.toList)

def cutShort (arrived : PartialRecord) (stop : Stop) : HelloError :=
  match arrived with
  | .header _ => .recordHeader stop.fault
  | .fragment length _ => .recordFragment length stop.fault

end PartialRecord

def recordReader (wanted : UInt8) : Reader PartialRecord (Except HelloError (List UInt8)) where
  room := PartialRecord.room
  push := PartialRecord.push wanted
  finish := fun arrived stop => .error (arrived.cutShort stop)

end SniffingRelay.Tls
