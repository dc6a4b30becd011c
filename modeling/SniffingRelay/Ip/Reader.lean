import SniffingRelay.Ip.Address
import SniffingRelay.Text.Numeral

set_option autoImplicit false

-- Each reader takes the longest address text from the front and gives back what follows it.

namespace SniffingRelay

abbrev TextReader (A : Type) : Type := List Char -> Option (A × List Char)

namespace TextReader

def char (wanted : Char) : List Char -> Option (List Char)
  | c :: rest => if c = wanted then some rest else none
  | [] => none

-- A number of at least one and at most `maxDigits` digits (no limit when absent).
def number (radix : Nat) (maxDigits : Option Nat) (leadingZeros : Bool) (bound : Nat) :
    TextReader Nat := fun text =>
  let (digits, rest) := Numeral.digitRun radix text
  let value := Digits.toNat radix digits
  if digits = [] then none
  else if maxDigits.any (· < digits.length) then none
  else if leadingZeros = false ∧ digits.head? = some 0 ∧ 1 < digits.length then none
  else if bound < value then none
  else some (value, rest)

def whole {A : Type} (reader : TextReader A) (text : String) : Option A :=
  match reader text.toList with
  | some (value, []) => some value
  | _ => none

end TextReader

open TextReader

namespace Ip4

-- Octets have no leading zeros, which other readers take for octal.
def octet : TextReader Nat := number 10 (some 3) false 255

def read : TextReader Ip4 := fun text => do
  let (a, text) <- octet text
  let (b, text) <- octet (<- char '.' text)
  let (c, text) <- octet (<- char '.' text)
  let (d, text) <- octet (<- char '.' text)
  return (ofOctets [a, b, c, d], text)

def ofText? (text : String) : Option Ip4 := whole read text

end Ip4

namespace Ip6

def group : TextReader Nat := number 16 (some 4) true 0xffff

structure Groups where
  groups : List Nat
  -- Whether the last two came from an embedded IPv4 address.
  dotted : Bool
  rest : List Char

/-- At most `room` groups, joined by colons; `joined` says that a colon comes first. An IPv4
address stands for the last two groups read, wherever two still fit. -/
def readGroups : Nat -> Bool -> List Char -> Groups
  | 0, _, text => ⟨[], false, text⟩
  | room + 1, joined, text =>
      let start := if joined then char ':' text else some text
      match if 0 < room then start.bind Ip4.read else none with
      | some (embedded, rest) => ⟨Digits.ofNat 65536 2 embedded.bits.toNat, true, rest⟩
      | none =>
          match start.bind group with
          | some (first, rest) =>
              let more := readGroups room true rest
              ⟨first :: more.groups, more.dotted, more.rest⟩
          | none => ⟨[], false, text⟩

-- Eight groups, or fewer with `::` for at least one group of zeros.
def read : TextReader Ip6 := fun text =>
  let head := readGroups 8 false text
  if head.groups.length = 8 then some (ofGroups head.groups, head.rest)
  else if head.dotted then none
  else
    match head.rest with
    | ':' :: ':' :: rest =>
        let tail := readGroups (7 - head.groups.length) false rest
        let zeros := List.replicate (8 - head.groups.length - tail.groups.length) 0
        some (ofGroups (head.groups ++ zeros ++ tail.groups), tail.rest)
    | _ => none

def ofText? (text : String) : Option Ip6 := whole read text

end Ip6

end SniffingRelay
