import SniffingRelay.Proofs.Ip.Masking

set_option autoImplicit false

namespace SniffingRelay.Prefix

-- Shifting out all bits is an overflow.
def shiftLeft? {width : Nat} (word : BitVec width) (amount : Nat) : Option (BitVec width) :=
  if amount < width then some (word <<< amount) else none

def mask? (length : Nat) : Option (BitVec 128) :=
  if length = 0 then some 0
  else if 128 ≤ length then some (BitVec.allOnes 128)
  else shiftLeft? (BitVec.allOnes 128) (128 - length)

def clearHost? (address : Ip6) (length : Nat) : Option Ip6 := do
  return ⟨address.bits &&& (<- mask? length)⟩

section

variable {address other : Ip6} {length shorter : Nat} {range : Prefix}

-- A shift by all 128 bits would clear the word, where it is no overflow.
theorem mask_eq_shiftLeft (length : Nat) : mask length = BitVec.allOnes 128 <<< (128 - length) := by
  cases length with
  | zero => exact (BitVec.shiftLeft_eq_zero (Nat.le_refl 128)).symm
  | succ length =>
    have amount : 127 - length = 128 - (length + 1) := by omega
    rw [mask, amount]

theorem mask?_eq (length : Nat) : mask? length = some (mask length) := by
  unfold mask?
  split
  next empty => rw [empty, mask]
  next filled =>
    rw [mask_eq_shiftLeft]
    split
    next full => rw [Nat.sub_eq_zero_of_le full, BitVec.shiftLeft_zero]
    next part =>
      have narrow : 128 - length < 128 := by omega
      rw [shiftLeft?, if_pos narrow]

theorem clearHost?_eq (address : Ip6) (length : Nat) :
    clearHost? address length = some (clearHost address length) := by
  rw [clearHost?, mask?_eq]
  rfl

def SameFront (length : Nat) (address other : Ip6) : Prop :=
  ∀ i, i < length → address.bits.getMsbD i = other.bits.getMsbD i

theorem toNat_clearHost (address : Ip6) (length : Nat) : (clearHost address length).bits.toNat =
    address.bits.toNat / 2 ^ (128 - length) * 2 ^ (128 - length) := by
  have small : address.bits.toNat / 2 ^ (128 - length) * 2 ^ (128 - length) < 2 ^ 128 :=
    Nat.lt_of_le_of_lt (Nat.div_mul_le_self ..) address.bits.isLt
  rw [clearHost, mask_eq_shiftLeft, ← BitVec.shiftLeft_ushiftRight, BitVec.toNat_shiftLeft,
    BitVec.toNat_ushiftRight, Nat.shiftLeft_eq, Nat.shiftRight_eq_div_pow, Nat.mod_eq_of_lt small]

theorem clearHost_eq_iff : clearHost address length = clearHost other length ↔
    address.bits.toNat / 2 ^ (128 - length) = other.bits.toNat / 2 ^ (128 - length) := by
  have positive : 0 < 2 ^ (128 - length) := Nat.two_pow_pos _
  constructor
  next =>
    intro same
    have value := congrArg (fun address => address.bits.toNat) same
    simp only [toNat_clearHost] at value
    exact Nat.eq_of_mul_eq_mul_right positive value
  next =>
    intro same
    have bits : (clearHost address length).bits = (clearHost other length).bits := by
      apply BitVec.eq_of_toNat_eq
      rw [toNat_clearHost, toNat_clearHost, same]
    exact congrArg Ip6.mk bits

theorem clearHost_eq_iff_sameFront (fits : length ≤ 128) :
    clearHost address length = clearHost other length ↔ SameFront length address other := by
  constructor
  next =>
    intro same i front
    have bit := congrArg (fun address => address.bits.getLsbD (127 - i)) same
    have kept : 128 - length ≤ 127 - i := by omega
    simp only [getLsbD_clearHost fits, kept, decide_true, Bool.and_true] at bit
    rw [BitVec.getMsbD_eq_getLsbD, BitVec.getMsbD_eq_getLsbD, bit]
  next =>
    intro same
    have bits : (clearHost address length).bits = (clearHost other length).bits := by
      apply BitVec.eq_of_getLsbD_eq
      intro i inside
      rw [getLsbD_clearHost fits, getLsbD_clearHost fits]
      by_cases kept : 128 - length ≤ i
      next =>
        have bit := same (127 - i) (by omega)
        have back : 128 - 1 - (127 - i) = i := by omega
        rw [BitVec.getMsbD_eq_getLsbD, BitVec.getMsbD_eq_getLsbD, back] at bit
        have among : 127 - i < 128 := by omega
        simp only [among, decide_true, Bool.true_and] at bit
        rw [bit]
      next => simp [kept]
    exact congrArg Ip6.mk bits

-- Addresses with the same front have the same shorter front.
theorem quotient_eq_of_le (less : shorter ≤ length) (fits : length ≤ 128)
    (same : address.bits.toNat / 2 ^ (128 - length) = other.bits.toNat / 2 ^ (128 - length)) :
    address.bits.toNat / 2 ^ (128 - shorter) = other.bits.toNat / 2 ^ (128 - shorter) := by
  have amount : 128 - shorter = (128 - length) + (length - shorter) := by omega
  rw [amount, Nat.pow_add, ← Nat.div_div_eq_div_mul, ← Nat.div_div_eq_div_mul, same]

theorem contains_iff_of_new (made : new address length = .ok range) :
    range.contains other = true ↔ clearHost other length = clearHost address length := by
  unfold new at made
  split at made
  next =>
    cases made
    rw [contains, decide_eq_true_eq]
  next => cases made

theorem address_of_new (made : new address length = .ok range) :
    range.address = clearHost address length := by
  unfold new at made
  split at made
  next =>
    cases made
    rfl
  next => cases made

theorem new_eq_error_iff {error : PrefixError} :
    new address length = .error error ↔ 128 < length ∧ error = .lengthOver128 length := by
  by_cases fits : length ≤ 128
  next => simp [new_of_fits fits, Nat.not_lt.mpr fits]
  next =>
    have long := Nat.lt_of_not_le fits
    simp [new_of_long long, long, eq_comm]

theorem contains_least (made : new address length = .ok range)
    (held : range.contains other = true) : range.address.bits.toNat ≤ other.bits.toNat := by
  have same := clearHost_eq_iff.mp ((contains_iff_of_new made).mp held)
  rw [address_of_new made, toNat_clearHost, ← same]
  exact Nat.div_mul_le_self ..

theorem new_address (made : new address length = .ok range) :
    new range.address length = .ok range := by
  rw [address_of_new made]
  by_cases fits : length ≤ 128
  next =>
    rw [new_of_fits fits] at made ⊢
    cases made
    simp only [clearHost_clearHost]
  next =>
    rw [new_of_long (Nat.lt_of_not_le fits)] at made
    cases made

/-- Masking shifts by less than the width of an address, and a prefix is refused just for a length
over that width. A prefix holds the addresses that begin as the one it was made of. Its own address
is the least of them and makes the same prefix, and prefixes that are shorter hold them all. -/
theorem prefixes_hold_what_begins_alike (address : Ip6) (length : Nat) :
    (∀ other, clearHost? other length = some (clearHost other length)) ∧
    (∀ error, new address length = .error error ↔ 128 < length ∧ error = .lengthOver128 length) ∧
    (length ≤ 128 → ∃ range, new address length = .ok range ∧ range.length = length ∧
      (∀ other, (range.contains other = true ↔ SameFront length other address) ∧
        (range.contains other = true ↔
          other.bits.toNat / 2 ^ (128 - length) = address.bits.toNat / 2 ^ (128 - length))) ∧
      (length = 0 → ∀ other, range.contains other = true) ∧
      (range.contains range.address = true ∧
        ∀ other, range.contains other = true → range.address.bits.toNat ≤ other.bits.toNat) ∧
      range.contains address = true ∧
      new range.address length = .ok range ∧
      ∀ shorter, shorter ≤ length → ∃ wider, new address shorter = .ok wider ∧
        ∀ other, range.contains other = true → wider.contains other = true) := by
  refine ⟨fun other => clearHost?_eq other length, fun error => new_eq_error_iff, ?_⟩
  intro fits
  have made : new address length = .ok ⟨clearHost address length, length, fits⟩ := new_of_fits fits
  generalize range_eq : (⟨clearHost address length, length, fits⟩ : Prefix) = range at made
  have member (other : Ip6) := @contains_iff_of_new address other length range made
  refine ⟨range, made, ?length, ?front, ?all, ?least, ?own, new_address made, ?wider⟩
  case length => rw [← range_eq]
  case front =>
    intro other
    exact ⟨(member other).trans (clearHost_eq_iff_sameFront fits),
      (member other).trans clearHost_eq_iff⟩
  case all =>
    intro empty other
    rw [member, clearHost_eq_iff_sameFront fits]
    intro i front
    omega
  case least =>
    refine ⟨?_, fun other held => contains_least made held⟩
    rw [member, address_of_new made, clearHost_clearHost]
  case own => rw [member]
  case wider =>
    intro shorter less
    have wide : new address shorter = .ok _ := new_of_fits (Nat.le_trans less fits)
    refine ⟨_, wide, ?_⟩
    intro other held
    rw [member, clearHost_eq_iff] at held
    rw [contains_iff_of_new wide, clearHost_eq_iff]
    exact quotient_eq_of_le less fits held

theorem documentation_prefix_holds_what_begins_alike :
    45 ≤ 128 ∧ 29 ≤ 45 ∧
      ∃ range wider, new (.ofGroups [0x2001, 0xdb8, 0xfffb, 0, 0, 0, 0, 1]) 45 = .ok range ∧
        new (.ofGroups [0x2001, 0xdb8, 0xfffb, 0, 0, 0, 0, 1]) 29 = .ok wider ∧
        range.address = .ofGroups [0x2001, 0xdb8, 0xfff8, 0, 0, 0, 0, 0] ∧
        range.contains (.ofGroups [0x2001, 0xdb8, 0xffff, 0, 0, 0, 0, 9]) = true ∧
        range.contains (.ofGroups [0x2001, 0xdb8, 0xfff7, 0, 0, 0, 0, 9]) = false ∧
        wider.contains (.ofGroups [0x2001, 0xdb8, 0xffff, 0, 0, 0, 0, 9]) = true := by
  obtain ⟨-, -, within⟩ :=
    prefixes_hold_what_begins_alike (.ofGroups [0x2001, 0xdb8, 0xfffb, 0, 0, 0, 0, 1]) 45
  obtain ⟨range, made, -, front, -, -, -, -, shorter⟩ := within (by decide)
  obtain ⟨wider, wide, holds⟩ := shorter 29 (by decide)
  have inside : range.contains (.ofGroups [0x2001, 0xdb8, 0xffff, 0, 0, 0, 0, 9]) = true :=
    (front _).2.mpr (by decide +kernel)
  have outside : ¬range.contains (.ofGroups [0x2001, 0xdb8, 0xfff7, 0, 0, 0, 0, 9]) = true :=
    mt (front _).2.mp (by decide +kernel)
  have cleared : range.address = .ofGroups [0x2001, 0xdb8, 0xfff8, 0, 0, 0, 0, 0] := by
    rw [address_of_new made]
    decide +kernel
  exact ⟨by decide, by decide, range, wider, made, wide, cleared, inside, by simpa using outside,
    holds _ inside⟩

end

end SniffingRelay.Prefix
