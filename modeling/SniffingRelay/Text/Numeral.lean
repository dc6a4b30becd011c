import SniffingRelay.Text.Digits

set_option autoImplicit false

namespace SniffingRelay.Numeral

/-- Why a text is no number within its bound. -/
inductive Flaw where
  | empty
  | invalidDigit
  | tooLarge
  deriving DecidableEq, Repr

def Flaw.message : Flaw -> String
  | .empty => "cannot parse integer from empty string"
  | .invalidDigit => "invalid digit found in string"
  | .tooLarge => "number too large to fit in target type"

-- The value of an ASCII digit or letter of either case, if it is below `radix`.
def digit? (radix : Nat) (c : Char) : Option Nat :=
  let value :=
    if '0' ≤ c ∧ c ≤ '9' then c.toNat - '0'.toNat
    else if 'a' ≤ c ∧ c ≤ 'z' then c.toNat - 'a'.toNat + 10
    else if 'A' ≤ c ∧ c ≤ 'Z' then c.toNat - 'A'.toNat + 10
    else radix
  if value < radix then some value else none

def accumulate (bound : Nat) : Nat -> List Char -> Except Flaw Nat
  | value, [] => .ok value
  | value, c :: rest =>
      match digit? 10 c with
      | none => .error .invalidDigit
      | some digit =>
          if bound < value * 10 + digit then .error .tooLarge
          else accumulate bound (value * 10 + digit) rest

-- Reads a whole text: one plus sign may lead, and any number of zeros after it.
def read (bound : Nat) : List Char -> Except Flaw Nat
  | [] => .error .empty
  | ['+'] => .error .invalidDigit
  | '+' :: digits => accumulate bound 0 digits
  | digits => accumulate bound 0 digits

def ofText (bound : Nat) (text : String) : Except Flaw Nat :=
  read bound text.toList

def digitRun (radix : Nat) : List Char -> List Nat × List Char
  | [] => ([], [])
  | c :: rest =>
      match digit? radix c with
      | none => ([], c :: rest)
      | some digit =>
          let (digits, after) := digitRun radix rest
          (digit :: digits, after)

def decimal (value : Nat) : String :=
  String.ofList (Nat.toDigits 10 value)

-- Lower-case hexadecimal without leading zeros.
def hexadecimal (value : Nat) : String :=
  String.ofList (Nat.toDigits 16 value)

end SniffingRelay.Numeral
