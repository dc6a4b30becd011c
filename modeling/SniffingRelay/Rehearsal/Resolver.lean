import SniffingRelay.Dial.Lookup
import SniffingRelay.Text.Pieces

set_option autoImplicit false

-- What can be found out about a name on a host that reaches no name server: addresses in older and
-- longer notations, and the names in the host's own table.

namespace SniffingRelay.Resolver

-- A number that is hexadecimal after `0x`, octal after another zero, and else decimal.
def part (text : List Char) : Option (Nat × List Char) :=
  let (radix, digits) := match text with
    | '0' :: 'x' :: c :: rest | '0' :: 'X' :: c :: rest =>
        if (Numeral.digit? 16 c).isSome then (16, c :: rest) else (8, text)
    | '0' :: _ => (8, text)
    | _ => (10, text)
  match Numeral.digitRun radix digits with
  | ([], _) => none
  | (values, rest) => some (Digits.toNat radix values, rest)

-- At most `dots` numbers of one octet, and a last one for all octets that are left.
def parts : Nat -> List Char -> Option (List Nat)
  | dots, text => do
      match dots, <- part text with
      | dots, (last, []) => if last < 256 ^ (dots + 1) then return Digits.ofNat 256 (dots + 1) last else none
      | dots + 1, (first, '.' :: rest) =>
          if first < 256 then return first :: (<- parts dots rest) else none
      | _, _ => none

def numbersAndDots? (text : String) : Option Ip4 :=
  (parts 3 text.toList).map Ip4.ofOctets

def needsScope (address : Ip6) : Bool :=
  address.isLinkLocal
    || (address.isMulticast && (address.octets.getD 1 0) % 16 = 2)

-- The number of a scope. The only device that has a name is the loopback device.
def scope? (address : Ip6) (text : List Char) : Option UInt32 :=
  if needsScope address && text = ['l', 'o'] then some 1
  else if text.all Char.isDigit then
    match Numeral.read 0xffffffff text with
    | .ok scope => some (UInt32.ofNat scope)
    | .error _ => none
  else none

def scoped? (text : String) (port : UInt16) : Option SocketAddress := do
  match text.toList.span (· ≠ '%') with
  | (address, '%' :: scope) =>
      let address <- Ip6.ofText? (String.ofList address)
      return .v6 address port (<- scope? address scope)
  | _ => none

-- Longest name, without a dot at its end.
def nameLimit : Nat := 253

def labelLimit : Nat := 63

def isLabel (label : List Char) : Bool :=
  !label.isEmpty && label.length ≤ labelLimit
    && label.all fun c => c.isAlphanum || c = '-' || c = '_'

-- Whether a name server can be asked for a name, which may end in a dot.
def isName (text : List Char) : Bool :=
  let name := if text.getLast? = some '.' then text.dropLast else text
  name.isEmpty || name.head? ≠ some '-' && name.length ≤ nameLimit
    && (Pieces.split '.' name).all isLabel

def lookup (own : List Ip) (name : String) (port : UInt16) : Except Fault (List SocketAddress) :=
  match Lookup.withoutResolver? name port, numbersAndDots? name, scoped? name port with
  | some found, _, _ => found
  | none, some address, _ => .ok [.v4 address port]
  | none, none, some address => .ok [address]
  | none, none, none =>
      if name.toLower = "localhost" then .ok (own.map (.ofIp port))
      else if isName name.toList then .error .noNameServer
      else .error .nameUnknown

end SniffingRelay.Resolver
