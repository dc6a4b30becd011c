import SniffingRelay.Pattern.Bracket
import SniffingRelay.Pattern.Opening

set_option autoImplicit false

-- Regular expressions, of which only this matters: whether one can be used to match texts, and if
-- not, why. An opening brace is taken for a flaw, because its closing brace cannot be in the text.

namespace SniffingRelay.Pattern

inductive Flaw where
  | illFormed
  -- Where words end is known for ASCII only.
  | wordBoundary
  deriving DecidableEq, Repr

def Flaw.message : Flaw -> String
  | .illFormed => "error building NFA"
  | .wordBoundary =>
      "unsupported regex feature for DFAs: cannot build DFAs for regexes with Unicode word "
        ++ "boundaries; switch to ASCII word boundaries, or heuristically enable Unicode word "
        ++ "boundaries or use a different regex engine"

-- How deep the parts of a pattern may be nested.
def depthLimit : Nat := 250

structure Part where
  depth : Nat
  isRepeatable : Bool := true
  deriving DecidableEq, Repr

/-- A group that has not been closed, or the whole pattern. -/
structure Level where
  -- The modes that come back with its end.
  outside : Modes := {}
  -- The depths of the alternatives before the last one.
  alternatives : List Nat := []
  -- The parts of the last one, from the back.
  parts : List Part := []
  deriving DecidableEq, Repr

namespace Level

def add (level : Level) (depth : Nat) : Level :=
  { level with parts := { depth } :: level.parts }

def addSwitches (level : Level) : Level :=
  { level with parts := { depth := 0, isRepeatable := false } :: level.parts }

def alternate (level : Level) : Level :=
  { level with
    alternatives := listDepth (level.parts.map Part.depth) :: level.alternatives
    parts := [] }

def repeated (level : Level) : Option Level :=
  match level.parts with
  | part :: before =>
      if part.isRepeatable then some { level with parts := { depth := part.depth + 1 } :: before }
      else none
  | [] => none

def depth (level : Level) : Nat := listDepth level.alternate.alternatives

end Level

structure State where
  modes : Modes := {}
  level : Level := {}
  outer : List Level := []
  -- The names of groups.
  names : List String := []
  -- Whether there is a word boundary in Unicode mode.
  isBounded : Bool := false
  deriving DecidableEq, Repr

namespace State

def add (state : State) (depth : Nat) : State :=
  { state with level := state.level.add depth }

def enter (state : State) : Opening -> Option State
  | .switches modes => some { state with modes, level := state.level.addSwitches }
  | .group name modes =>
      if name.any (· ∈ state.names) then none
      else
        some { state with
          modes
          level := { outside := state.modes }
          outer := state.level :: state.outer
          names := name.toList ++ state.names }

def leave (state : State) : Option State :=
  match state.outer with
  | level :: outer =>
      some { state with
        modes := state.level.outside
        level := level.add (1 + state.level.depth)
        outer }
  | [] => none

def addAtom (state : State) (atom : Atom) : Option State :=
  if atom.isSupported state.modes then
    some { state.add 0 with
      isBounded := state.isBounded || (atom = .wordBoundary && state.modes.unicode) }
  else none

-- Reads on to the end of the pattern. No step adds to the text.
def read : Nat -> State -> List Char -> Option State
  | 0, _, _ => none
  | fuel + 1, state, text =>
      match state.modes.skip text with
      | [] => some state
      | '(' :: text => do
          let (opening, rest) <- Opening.read state.modes text
          read fuel (<- state.enter opening) rest
      | ')' :: rest => do read fuel (<- state.leave) rest
      | '|' :: rest => read fuel { state with level := state.level.alternate } rest
      | '[' :: text => do
          let (depth, rest) <- Bracket.read state.modes text
          read fuel (state.add depth) rest
      | '\x7b' :: _ => none
      | '.' :: rest => if state.modes.unicode then read fuel (state.add 0) rest else none
      | '^' :: rest | '$' :: rest => read fuel (state.add 0) rest
      | c :: rest =>
          if c ∈ ['?', '*', '+'] then do
            let level <- state.level.repeated
            read fuel { state with level } (if rest.head? = some '?' then rest.tail else rest)
          else do
            let (atom, rest) <- Atom.read state.modes (c :: rest)
            read fuel (<- state.addAtom atom) rest

end State

def flaw? (text : String) : Option Flaw :=
  match State.read (text.length + 1) {} text.toList with
  | some { level, outer := [], isBounded, .. } =>
      if depthLimit < level.depth then some .illFormed
      else if isBounded then some .wordBoundary
      else none
  | _ => some .illFormed

end SniffingRelay.Pattern
