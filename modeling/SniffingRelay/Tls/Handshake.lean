import SniffingRelay.Tls.Record

set_option autoImplicit false

-- A ClientHello is put together from the fragments of as many records as it takes. Only whole
-- records are taken, and none after the one that completes the message.

namespace SniffingRelay.Tls

-- Largest handshake message accepted.
def messageLimit : Nat := 65536

structure Handshake where
  message : Array UInt8 := #[]
  record : PartialRecord := .start
  deriving DecidableEq, Repr

namespace Handshake

-- What the bytes of a message decide; nothing while more of them are needed.
def verdict (message : Array UInt8) : Option (Except HelloError Hello) := do
  let kind <- message[0]?
  if kind ≠ 1 then return .error (.handshakeType kind)
  let length := Hello.bigEndian [<- message[1]?, <- message[2]?, <- message[3]?]
  if messageLimit < length then return .error (.messageTooLarge length messageLimit)
  guard (4 + length ≤ message.size)
  return Hello.parse (message.extract 4 (4 + length)).toList

def push (state : Handshake) (byte : UInt8) : Progress Handshake (Except HelloError Hello) :=
  match state.record.push handshakeContent byte with
  | .more record => .more { state with record }
  | .settled (.error error) => .settled (.error error)
  | .settled (.ok fragment) =>
      if fragment.isEmpty then .settled (.error .emptyRecord)
      else
        let message := state.message ++ fragment
        match verdict message with
        | some result => .settled result
        | none => .more { message }

end Handshake

def handshakeReader : Reader Handshake (Except HelloError Hello) where
  room := fun state => state.record.room
  push := Handshake.push
  finish := fun state stop => .error (state.record.cutShort stop)

end SniffingRelay.Tls
