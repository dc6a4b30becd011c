import SniffingRelay.Text.Blank

set_option autoImplicit false

namespace SniffingRelay.Pattern

structure Modes where
  ignoresCase : Bool := false
  unicode : Bool := true
  -- Whether blanks and comments mean nothing.
  spaced : Bool := false
  deriving DecidableEq, Repr

namespace Modes

-- Turns a switch on or off. The others make no difference to what is well formed.
def set (modes : Modes) (on : Bool) : Char -> Option Modes
  | 'i' => some { modes with ignoresCase := on }
  | 'u' => some { modes with unicode := on }
  | 'x' => some { modes with spaced := on }
  | 'm' | 's' | 'U' | 'R' => some modes
  | _ => none

-- Drops blanks and comments. A comment goes on to the end of its line.
def skipSpace (inComment : Bool) : List Char -> List Char
  | [] => []
  | c :: rest =>
      if inComment then skipSpace (c ≠ '\n') rest
      else if Blank.isBlank c then skipSpace false rest
      else if c = '#' then skipSpace true rest
      else c :: rest

def skip (modes : Modes) (text : List Char) : List Char :=
  if modes.spaced then skipSpace false text else text

-- The next character that means something. Only the mark of a comment is looked past.
def glance (modes : Modes) (text : List Char) : Option Char :=
  if modes.spaced then
    match text.dropWhile Blank.isBlank with
    | '#' :: rest => (rest.dropWhile Blank.isBlank).head?
    | text => text.head?
  else text.head?

end Modes

end SniffingRelay.Pattern
