import SniffingRelay.Pattern.Atom

set_option autoImplicit false

-- A class lists characters, ranges and other classes, and can combine lists by operators. Of a
-- class that has been read only the depth of its nesting is kept.

namespace SniffingRelay.Pattern

-- The depth of a list of parts. A part that is alone needs no list.
def listDepth : List Nat -> Nat
  | [] => 0
  | [depth] => depth
  | depths => 1 + depths.foldl max 0

/-- A class that has not been closed. -/
structure Bracket where
  isNegated : Bool
  -- Whether nothing but dashes has been read.
  isFresh : Bool := true
  -- The depth of what the last operator is applied to.
  left : Option Nat := none
  -- The depths of the parts after the last operator.
  parts : List Nat := []
  deriving DecidableEq, Repr

namespace Bracket

def add (bracket : Bracket) (depth : Nat) : Bracket :=
  { bracket with isFresh := false, parts := depth :: bracket.parts }

def contentDepth (bracket : Bracket) : Nat :=
  match bracket.left with
  | none => listDepth bracket.parts
  | some left => 1 + max left (listDepth bracket.parts)

def operate (bracket : Bracket) : Bracket :=
  { bracket with isFresh := false, left := some bracket.contentDepth, parts := [] }

-- A class of all that is not listed is not limited to ASCII.
def isSupported (modes : Modes) (bracket : Bracket) : Bool :=
  modes.unicode || !bracket.isNegated

def enter (modes : Modes) (text : List Char) : Bracket × List Char :=
  match modes.skip text with
  | '^' :: rest => ({ isNegated := true }, rest)
  | text => ({ isNegated := false }, text)

def names : List String :=
  ["alnum", "alpha", "ascii", "blank", "cntrl", "digit", "graph", "lower", "print", "punct",
    "space", "upper", "word", "xdigit"]

def named? : List Char -> Option (Bool × List Char)
  | ':' :: text =>
      let (isNegated, text) := match text with
        | '^' :: rest => (true, rest)
        | text => (false, text)
      match text.span (· ≠ ':') with
      | (name, ':' :: ']' :: rest) =>
          if String.ofList name ∈ names then some (isNegated, rest) else none
      | _ => none
  | _ => none

def isNamedSupported (modes : Modes) (isNegated : Bool) : Bool :=
  if modes.unicode then !modes.ignoresCase else !isNegated

def unit (modes : Modes) (text : List Char) : Option (List Char) := do
  let (first, rest) <- Atom.read modes text
  let rest := modes.skip rest
  let alone := if first.isMember modes then some rest else none
  match rest with
  | '-' :: more =>
      if modes.glance more = some ']' ∨ modes.glance more = some '-' then alone
      else do
        match first, <- Atom.read modes (modes.skip more) with
        | .letter low lowByte, (.letter high highByte, rest) =>
            if low ≤ high ∧ Atom.isMember modes (.letter low lowByte)
                ∧ Atom.isMember modes (.letter high highByte) then some rest
            else none
        | _, _ => none
  | _ => alone

-- Reads on to the end of the outermost class. No step adds to the text.
def readRest (modes : Modes) :
    Nat -> Bracket -> List Bracket -> List Char -> Option (Nat × List Char)
  | 0, _, _, _ => none
  | fuel + 1, bracket, outer, text =>
      match modes.skip text with
      | [] => none
      | '[' :: rest =>
          match named? rest with
          | some (isNegated, rest) =>
              if isNamedSupported modes isNegated then
                readRest modes fuel (bracket.add 0) outer rest
              else none
          | none =>
              let (inner, rest) := enter modes rest
              readRest modes fuel inner (bracket :: outer) rest
      | c :: rest =>
          if bracket.isFresh && (c = '-' || c = ']' && bracket.parts.isEmpty) then
            if Atom.isMember modes (.letter c false) then
              readRest modes fuel { bracket.add 0 with isFresh := c = '-' } outer rest
            else none
          else if c = ']' then
            if !bracket.isSupported modes then none
            else
              let depth := 1 + bracket.contentDepth
              match outer with
              | [] => some (depth, rest)
              | next :: outer => readRest modes fuel (next.add depth) outer rest
          else if c ∈ ['&', '-', '~'] && rest.head? = some c then
            readRest modes fuel bracket.operate outer rest.tail
          else do
            readRest modes fuel (bracket.add 0) outer (<- unit modes (c :: rest))

def read (modes : Modes) (text : List Char) : Option (Nat × List Char) :=
  let (bracket, rest) := enter modes text
  readRest modes (text.length + 1) bracket [] rest

end Bracket

end SniffingRelay.Pattern
