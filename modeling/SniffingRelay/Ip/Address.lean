import SniffingRelay.Text.Digits

set_option autoImplicit false

-- An address is a word; octets and groups are its digits in base 256 and 65536.

namespace SniffingRelay

structure Ip4 where
  bits : BitVec 32
  deriving DecidableEq, Repr

structure Ip6 where
  bits : BitVec 128
  deriving DecidableEq, Repr

inductive Ip where
  | v4 (address : Ip4)
  | v6 (address : Ip6)
  deriving DecidableEq, Repr

namespace Ip4

def octets (address : Ip4) : List Nat :=
  Digits.ofNat 256 4 address.bits.toNat

def ofOctets (octets : List Nat) : Ip4 :=
  ⟨BitVec.ofNat 32 (Digits.toNat 256 octets)⟩

def unspecified : Ip4 := ⟨0⟩

def loopback : Ip4 := ofOctets [127, 0, 0, 1]

def broadcast : Ip4 := ofOctets [255, 255, 255, 255]

def isMulticast (address : Ip4) : Bool :=
  address.octets.head?.any fun octet => 224 ≤ octet && octet < 240

def isLoopback (address : Ip4) : Bool :=
  address.octets.head? = some 127

theorem ofOctets_octets (address : Ip4) : ofOctets address.octets = address := by
  have small := address.bits.isLt
  cases address with
  | mk bits =>
    simp only [ofOctets, octets, Digits.toNat_ofNat, Nat.pow_eq, mk.injEq]
    apply BitVec.eq_of_toNat_eq
    simp only [BitVec.toNat_ofNat]
    omega

end Ip4

namespace Ip6

def octets (address : Ip6) : List Nat :=
  Digits.ofNat 256 16 address.bits.toNat

def groups (address : Ip6) : List Nat :=
  Digits.ofNat 65536 8 address.bits.toNat

def ofGroups (groups : List Nat) : Ip6 :=
  ⟨BitVec.ofNat 128 (Digits.toNat 65536 groups)⟩

def unspecified : Ip6 := ⟨0⟩

def loopback : Ip6 := ⟨1⟩

-- `::ffff:a.b.c.d`, the IPv6 form of an IPv4 address.
def ofIp4 (address : Ip4) : Ip6 :=
  ⟨0xffff#96 ++ address.bits⟩

-- The IPv4 address that an address of the form `::ffff:a.b.c.d` holds.
def toIp4? (address : Ip6) : Option Ip4 :=
  if address.bits.extractLsb' 32 96 = 0xffff#96 then some ⟨address.bits.extractLsb' 0 32⟩
  else none

def isMulticast (address : Ip6) : Bool :=
  address.octets.head? = some 0xff

-- The addresses in `fe80::/10`, which mean something only together with a device.
def isLinkLocal (address : Ip6) : Bool :=
  address.bits.extractLsb' 118 10 = 0b1111111010#10

theorem ofGroups_groups (address : Ip6) : ofGroups address.groups = address := by
  have small := address.bits.isLt
  cases address with
  | mk bits =>
    simp only [ofGroups, groups, Digits.toNat_ofNat, Nat.pow_eq, mk.injEq]
    apply BitVec.eq_of_toNat_eq
    simp only [BitVec.toNat_ofNat]
    omega

end Ip6

def Ip.unmapped : Ip -> Ip
  | .v4 address => .v4 address
  | .v6 address =>
      match address.toIp4? with
      | some inner => .v4 inner
      | none => .v6 address

end SniffingRelay
