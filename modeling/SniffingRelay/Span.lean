import SniffingRelay.Text.Numeral

set_option autoImplicit false

namespace SniffingRelay

structure Span where
  nanoseconds : Nat
  deriving DecidableEq, Repr

namespace Span

def ofMilliseconds (count : Nat) : Span := ⟨count * 1000000⟩

def ofSeconds (count : Nat) : Span := ⟨count * 1000000000⟩

-- A fraction's digits without trailing zeros, after a point, or nothing.
def fractionText (digits : List Nat) : String :=
  let kept := (digits.reverse.dropWhile (· = 0)).reverse
  if kept = [] then "" else "." ++ String.join (kept.map Numeral.decimal)

def inUnit (span : Span) (places : Nat) (symbol : String) : String :=
  let unit := Nat.pow 10 places
  Numeral.decimal (span.nanoseconds / unit)
    ++ fractionText (Digits.ofNat 10 places (span.nanoseconds % unit)) ++ symbol

-- In the largest unit of which there is at least one, with the exact fraction.
def text (span : Span) : String :=
  if 1000000000 ≤ span.nanoseconds then span.inUnit 9 "s"
  else if 1000000 ≤ span.nanoseconds then span.inUnit 6 "ms"
  else if 1000 ≤ span.nanoseconds then span.inUnit 3 "µs"
  else span.inUnit 0 "ns"

end Span

end SniffingRelay
