set_option autoImplicit false

namespace SniffingRelay

structure Transcript where
  -- The pieces that passed, the last one first.
  pieces : List (List UInt8) := []
  deriving DecidableEq, Repr

namespace Transcript

def toList (transcript : Transcript) : List UInt8 := transcript.pieces.reverse.flatten

def append (transcript : Transcript) (piece : List UInt8) : Transcript :=
  ⟨piece :: transcript.pieces⟩

def size (transcript : Transcript) : Nat :=
  transcript.pieces.foldr (fun piece total => piece.length + total) 0

@[simp] theorem toList_empty : ({} : Transcript).toList = [] := rfl

@[simp] theorem toList_append (transcript : Transcript) (piece : List UInt8) :
    (transcript.append piece).toList = transcript.toList ++ piece := by
  simp [toList, append]

theorem size_eq_length (transcript : Transcript) : transcript.size = transcript.toList.length := by
  cases transcript with
  | mk pieces =>
    induction pieces with
    | nil => rfl
    | cons piece earlier ih =>
      simp only [size, toList] at ih
      simp only [size, toList, List.foldr_cons, ih]
      simp [Nat.add_comm]

end Transcript

end SniffingRelay
