import SniffingRelay.Pattern.Modes
import SniffingRelay.Text.Digits
import SniffingRelay.Text.Numeral

set_option autoImplicit false

-- Single characters, and backslashes with what follows them. Case and classes are known for ASCII
-- only, so in Unicode mode neither can be asked for; and out of Unicode mode nothing may match a
-- part of a character.

namespace SniffingRelay.Pattern

inductive Atom where
  -- A character, and whether it was written as the two digits of a byte.
  | letter (c : Char) (isByte : Bool)
  -- A class with a letter of its own, such as the digits, or all that is not in it.
  | shorthand (isNegated : Bool)
  | wordBoundary
  | textBoundary
  deriving DecidableEq, Repr

namespace Atom

def isAscii (c : Char) : Bool := c.toNat < 128

def hexadecimalDigits (modes : Modes) : Nat -> List Char -> Option (List Nat × List Char)
  | 0, text => some ([], text)
  | _ + 1, [] => none
  | count + 1, c :: rest => do
      let digit <- Numeral.digit? 16 c
      let (digits, rest) <- hexadecimalDigits modes count (modes.skip rest)
      return (digit :: digits, rest)

def codePoint (modes : Modes) (count : Nat) (text : List Char) : Option (Atom × List Char) := do
  let (digits, rest) <- hexadecimalDigits modes count (modes.skip text)
  let value := Digits.toNat 16 digits
  if value.isValidChar then some (.letter (Char.ofNat value) (count = 2), rest) else none

def controls : List (Char × Char) :=
  [('a', '\x07'), ('f', '\x0c'), ('t', '\t'), ('n', '\n'), ('r', '\r'), ('v', '\x0b')]

-- What follows a backslash. Every ASCII mark can be escaped, but few letters and no digit.
def escape (modes : Modes) : List Char -> Option (Atom × List Char)
  | 'x' :: text => codePoint modes 2 text
  | 'u' :: text => codePoint modes 4 text
  | 'U' :: text => codePoint modes 8 text
  | 'b' :: '\x7b' :: _ => none
  | 'b' :: rest | 'B' :: rest | '<' :: rest | '>' :: rest => some (.wordBoundary, rest)
  | 'A' :: rest | 'z' :: rest => some (.textBoundary, rest)
  | 'd' :: rest | 's' :: rest | 'w' :: rest => some (.shorthand false, rest)
  | 'D' :: rest | 'S' :: rest | 'W' :: rest => some (.shorthand true, rest)
  | c :: rest =>
      match controls.lookup c with
      | some control => some (.letter control false, rest)
      | none => if isAscii c && !c.isAlphanum then some (.letter c false, rest) else none
  | [] => none

def read (modes : Modes) : List Char -> Option (Atom × List Char)
  | '\\' :: text => escape modes text
  | c :: rest => some (.letter c false, rest)
  | [] => none

def isSupported (modes : Modes) : Atom -> Bool
  | .letter c isByte => if modes.unicode then !modes.ignoresCase else !isByte || isAscii c
  | .shorthand isNegated => !modes.unicode && !isNegated
  | .wordBoundary | .textBoundary => true

def isMember (modes : Modes) : Atom -> Bool
  | .letter c _ => if modes.unicode then !modes.ignoresCase else isAscii c
  | .shorthand isNegated => !modes.unicode && !isNegated
  | .wordBoundary | .textBoundary => false

end Atom

end SniffingRelay.Pattern
