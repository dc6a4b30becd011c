import SniffingRelay.Ip.Address
import SniffingRelay.Text.Numeral

set_option autoImplicit false

namespace SniffingRelay

def Ip4.text (address : Ip4) : String :=
  ".".intercalate (address.octets.map Numeral.decimal)

namespace Ip6

def zerosFrom (groups : List Nat) (start : Nat) : Nat :=
  ((groups.drop start).takeWhile (· = 0)).length

structure ZeroRun where
  start : Nat
  length : Nat
  deriving DecidableEq, Repr

-- The longest run of zero groups, the first of equal ones.
def longestZeros (groups : List Nat) : ZeroRun :=
  (List.range groups.length).foldl
    (fun best start =>
      if best.length < zerosFrom groups start then ⟨start, zerosFrom groups start⟩ else best)
    ⟨0, 0⟩

def groupsText (groups : List Nat) : String :=
  ":".intercalate (groups.map Numeral.hexadecimal)

/-- Lower case, the longest run of two or more zero groups as `::`, and an embedded IPv4 address
in its own form. -/
def text (address : Ip6) : String :=
  match address.toIp4? with
  | some embedded => "::ffff:" ++ embedded.text
  | none =>
      let groups := address.groups
      let run := longestZeros groups
      if 1 < run.length then
        groupsText (groups.take run.start) ++ "::" ++ groupsText (groups.drop (run.start + run.length))
      else groupsText groups

end Ip6

def Ip.text : Ip -> String
  | .v4 address => address.text
  | .v6 address => address.text

end SniffingRelay
