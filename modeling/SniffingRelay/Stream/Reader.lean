import SniffingRelay.Stream.Recording

set_option autoImplicit false

-- A reader is fed one byte at a time until it settles. How the bytes are cut into reads can then
-- decide only what is taken beyond the settling byte, and `room` bounds that.

namespace SniffingRelay

inductive Progress (S R : Type) where
  | more (state : S)
  | settled (result : R)
  deriving DecidableEq, Repr

def Progress.map {S T R Q : Type} (onState : S -> T) (onResult : R -> Q) :
    Progress S R -> Progress T Q
  | .more state => .more (onState state)
  | .settled result => .settled (onResult result)

/-- Why no further byte comes. -/
inductive Stop where
  | ended
  | failed (fault : Fault)
  deriving DecidableEq, Repr

def Stop.fault : Stop -> Fault
  | .ended => .earlyEnd
  | .failed fault => fault

structure Reader (S R : Type) where
  -- The most bytes that the next read may take.
  room : S -> Nat
  push : S -> UInt8 -> Progress S R
  finish : S -> Stop -> R
  -- How to go on if more bytes follow an end after all; nothing if the end settles the reading.
  resume : S -> Option S := fun _ => none

/-- What a reader made of a source: its result, the bytes taken but not used, and the source. -/
structure Reading (R : Type) where
  result : R
  spare : List UInt8
  source : Recording

namespace Reader

variable {S R : Type}

def feed (reader : Reader S R) : S -> List UInt8 -> Progress S R × List UInt8
  | state, [] => (.more state, [])
  | state, byte :: rest =>
      match reader.push state byte with
      | .more next => reader.feed next rest
      | .settled result => (.settled result, rest)

def run (reader : Reader S R) (state : S) (source : Recording) : Reading R :=
  match _answer : source.read (reader.room state) with
  | (.ok [], next) =>
      match reader.resume state with
      | none => ⟨reader.finish state .ended, [], next⟩
      | some later =>
          if _moved : next.weight < source.weight then reader.run later next
          else ⟨reader.finish state .ended, [], next⟩
  | (.ok (first :: more), next) =>
      match reader.feed state (first :: more) with
      | (.settled result, spare) => ⟨result, spare, next⟩
      | (.more later, _) => reader.run later next
  | (.error fault, next) =>
      if fault.isInterruption then reader.run state next
      else ⟨reader.finish state (.failed fault), [], next⟩
termination_by source.weight
decreasing_by
  · exact _moved
  · exact Recording.weight_read_bytes _answer
  · exact Recording.weight_read_fault _answer

end Reader

end SniffingRelay
