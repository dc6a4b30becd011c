import SniffingRelay.Fault
import SniffingRelay.Stream.Transcript

set_option autoImplicit false

namespace SniffingRelay

/-- What one read of a source meets. A piece without bytes reads as the end of the stream, once. -/
inductive Arrival where
  | bytes (piece : List UInt8)
  | fault (fault : Fault)
  deriving DecidableEq, Repr

def Arrival.size : Arrival -> Nat
  | .bytes piece => piece.length
  | .fault _ => 0

structure Recording where
  ahead : List Arrival
  heard : Transcript := {}
  deriving DecidableEq, Repr

namespace Recording

-- Bytes of the source that no read has taken.
def unread (source : Recording) : Nat :=
  source.ahead.foldr (fun arrival total => arrival.size + total) 0

-- Reads that the source can still answer with something other than its final end.
def weight (source : Recording) : Nat :=
  source.ahead.foldr (fun arrival total => arrival.size + 1 + total) 0

-- One read of at most `room` bytes: never more than the rest of one piece.
def read (room : Nat) (source : Recording) : Except Fault (List UInt8) × Recording :=
  match source.ahead with
  | [] => (.ok [], source)
  | .fault fault :: later => (.error fault, { source with ahead := later })
  | .bytes piece :: later =>
      let (taken, kept) := piece.splitAt room
      let ahead := if kept.isEmpty then later else .bytes kept :: later
      (.ok taken, { ahead, heard := source.heard.append taken })

theorem weight_read_fault {room : Nat} {source next : Recording} {fault : Fault}
    (result : source.read room = (.error fault, next)) : next.weight < source.weight := by
  unfold read at result
  split at result
  next => simp at result
  next found =>
    simp only [Prod.mk.injEq] at result
    simp [← result.2, weight, found, Arrival.size]
  next => simp at result

theorem weight_read_bytes {room : Nat} {source next : Recording} {first : UInt8}
    {more : List UInt8} (result : source.read room = (.ok (first :: more), next)) :
    next.weight < source.weight := by
  unfold read at result
  split at result
  next => simp at result
  next => simp at result
  next piece later found =>
    simp only [List.splitAt_eq, Prod.mk.injEq, Except.ok.injEq] at result
    have taken : 0 < (piece.take room).length := by simp [result.1]
    have split : (piece.take room).length + (piece.drop room).length = piece.length := by
      rw [← List.length_append, List.take_append_drop]
    rw [← result.2]
    by_cases last : (piece.drop room).isEmpty = true
    next => simp [weight, found, last, Arrival.size]
    next =>
      simp only [weight, found, last, Arrival.size, List.foldr_cons]
      simp
      simp at split taken
      omega

/-- Reads until `count` bytes are there; an interruption does not end it. Bytes taken before a
fault or the end are in the record all the same. -/
def readExactly (count : Nat) (source : Recording) : Except Fault (List UInt8) × Recording :=
  if count = 0 then (.ok [], source)
  else
    match _answer : source.read count with
    | (.ok [], next) => (.error .earlyEnd, next)
    | (.ok (first :: more), next) =>
        match readExactly (count - (more.length + 1)) next with
        | (.ok rest, last) => (.ok (first :: more ++ rest), last)
        | (.error fault, last) => (.error fault, last)
    | (.error fault, next) =>
        if fault.isInterruption then readExactly count next else (.error fault, next)
termination_by source.weight
decreasing_by
  · exact weight_read_bytes _answer
  · exact weight_read_fault _answer

end Recording

end SniffingRelay
