set_option autoImplicit false

-- One direction of a splice: chunks are read from a source and written whole to a sink. When the
-- source ends, or either side fails, the sink is shut down and the half is finished.

namespace SniffingRelay

/-- What happens to one half. -/
inductive Move where
  | read (chunk : List UInt8)
  | sourceStopped
  | wrote (count : Nat)
  | sinkFailed
  -- The sink was shut down, or that failed: the half is finished either way.
  | sinkShut
  deriving DecidableEq, Repr

namespace Half

inductive Stage where
  | reading
  -- Some of a chunk of `size` bytes is still to be written.
  | writing (size : Nat) (unsent : List UInt8)
  | shutting
  | finished
  deriving DecidableEq, Repr

end Half

structure Half where
  -- Bytes of the chunks that were written whole.
  moved : Nat := 0
  stage : Half.Stage := .reading
  deriving DecidableEq, Repr

namespace Half

def chunkLimit : Nat := 8192

def isFinished (half : Half) : Bool := half.stage = .finished

def unsent (half : Half) : List UInt8 :=
  match half.stage with
  | .writing _ unsent => unsent
  | _ => []

def step (half : Half) (move : Move) : Option Half :=
  match half.stage, move with
  | .reading, .read chunk =>
      if chunk = [] ∨ chunkLimit < chunk.length then none
      else some { half with stage := .writing chunk.length chunk }
  | .reading, .sourceStopped => some { half with stage := .shutting }
  | .writing size unsent, .wrote count =>
      if count = 0 ∨ unsent.length < count then none
      else
        match unsent.drop count with
        | [] => some { moved := half.moved + size, stage := .reading }
        | left => some { half with stage := .writing size left }
  | .writing _ _, .sinkFailed => some { half with stage := .shutting }
  | .shutting, .sinkShut => some { half with stage := .finished }
  | _, _ => none

-- Reading a chunk is a sign of life, and so is the end of writing one.
def isAlive (half : Half) : Move -> Bool
  | .read _ => true
  | .wrote count => half.unsent.length = count
  | _ => false

end Half

end SniffingRelay
