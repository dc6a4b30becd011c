import SniffingRelay.Ip.Printer
import SniffingRelay.Ip.Reader
import SniffingRelay.Text.Blank

set_option autoImplicit false

-- A prefix is an address with its host bits cleared. A subnet is a prefix with room for an IPv4
-- address in its last 32 bits, so that each IPv4 client has an IPv6 address of its own in it.

namespace SniffingRelay

inductive PrefixError where
  | missingSlash (text : String)
  | notAnAddress (text : String)
  | notALength (text : String)
  | lengthOver128 (length : Nat)
  | tooLongToEmbed (length : Nat)
  | everyAddress
  deriving DecidableEq, Repr

def longestEmbedding : Nat := 96

def PrefixError.message : PrefixError -> String
  | .missingSlash text => "invalid CIDR prefix: missing '/' in CIDR: " ++ text
  | .notAnAddress text => "invalid IPv6 address: " ++ text
  | .notALength text => "invalid CIDR prefix: " ++ text
  | .lengthOver128 length =>
      "invalid CIDR prefix: prefix length " ++ Numeral.decimal length ++ " exceeds 128"
  | .tooLongToEmbed length =>
      "subnet mask /" ++ Numeral.decimal length ++ " is too long; must be at most "
        ++ Numeral.decimal longestEmbedding ++ " bits to fit IPv4 addresses"
  | .everyAddress => "subnet mask /0 is not a usable subnet"

structure Prefix where
  address : Ip6
  length : Nat
  length_le : length ≤ 128
  deriving DecidableEq, Repr

namespace Prefix

-- Ones in the first `length` bits. No shift is as wide as the word.
def mask : Nat -> BitVec 128
  | 0 => 0
  | length + 1 => BitVec.allOnes 128 <<< (127 - length)

def clearHost (address : Ip6) (length : Nat) : Ip6 :=
  ⟨address.bits &&& mask length⟩

def new (address : Ip6) (length : Nat) : Except PrefixError Prefix :=
  if fits : length ≤ 128 then .ok ⟨clearHost address length, length, fits⟩
  else .error (.lengthOver128 length)

def contains (range : Prefix) (address : Ip6) : Bool :=
  clearHost address range.length = range.address

def splitSlash : List Char -> Option (List Char × List Char)
  | [] => none
  | c :: rest =>
      if c = '/' then some ([], rest)
      else (splitSlash rest).map fun (before, after) => (c :: before, after)

-- Blanks around the whole text are ignored, but not around the slash.
def ofCidr (text : String) : Except PrefixError Prefix :=
  match splitSlash (Blank.trim text.toList) with
  | none => .error (.missingSlash text)
  | some (before, after) =>
      match Ip6.ofText? (String.ofList before) with
      | none => .error (.notAnAddress (String.ofList before))
      | some address =>
          match Numeral.read 255 after with
          | .error _ => .error (.notALength (String.ofList after))
          | .ok length => new address length

def text (range : Prefix) : String :=
  range.address.text ++ "/" ++ Numeral.decimal range.length

end Prefix

/-- A prefix of 1 to 96 bits. -/
structure Subnet where
  base : Prefix
  nonempty : 0 < base.length
  embeds : base.length ≤ longestEmbedding
  deriving DecidableEq, Repr

namespace Subnet

def new (base : Prefix) : Except PrefixError Subnet :=
  if empty : base.length = 0 then .error .everyAddress
  else if long : longestEmbedding < base.length then .error (.tooLongToEmbed base.length)
  else .ok ⟨base, Nat.pos_of_ne_zero empty, Nat.le_of_not_lt long⟩

def ofCidr (text : String) : Except PrefixError Subnet := do
  new (<- Prefix.ofCidr text)

-- The client's address in the last 32 bits.
def synthesize (subnet : Subnet) (client : Ip4) : Ip6 :=
  ⟨subnet.base.address.bits.extractLsb' 32 96 ++ client.bits⟩

def text (subnet : Subnet) : String := subnet.base.text

end Subnet

end SniffingRelay
