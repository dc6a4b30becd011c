import SniffingRelay.Pattern.Expression

set_option autoImplicit false

namespace SniffingRelay.NoticePattern

def dropSign : List Char -> List Char
  | '+' :: text | '-' :: text => text
  | text => text

def isExponent : List Char -> Bool
  | [] => true
  | mark :: text =>
      let (digits, rest) := Numeral.digitRun 10 (dropSign text)
      mark.toLower = 'e' && !digits.isEmpty && rest.isEmpty

-- Digits with at most one point among them, and what follows them.
def decimals (text : List Char) : List Nat × List Char :=
  match Numeral.digitRun 10 text with
  | (whole, '.' :: rest) =>
      let (fraction, rest) := Numeral.digitRun 10 rest
      (whole ++ fraction, rest)
  | parts => parts

def isNumber (text : List Char) : Bool :=
  let size := dropSign text
  let (digits, rest) := decimals size
  (!digits.isEmpty && isExponent rest)
    || ["inf", "infinity", "nan"].contains (String.ofList size).toLower

def flaw? (text : String) : Option Pattern.Flaw :=
  if isNumber text.toList then none else Pattern.flaw? text

end SniffingRelay.NoticePattern
