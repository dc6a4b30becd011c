import Mathlib
import SniffingRelay.Ip.Prefix

set_option autoImplicit false

namespace SniffingRelay.Prefix

variable {address : Ip6} {length i : Nat} {range : Prefix}

theorem getLsbD_mask (fits : length ≤ 128) :
    (mask length).getLsbD i = (decide (128 - length ≤ i) && decide (i < 128)) := by
  cases length with
  | zero => simp [mask]
  | succ length =>
    have start : 127 - length = 128 - (length + 1) := by omega
    rw [mask, BitVec.getLsbD_shiftLeft, BitVec.getLsbD_allOnes, start, Bool.eq_iff_iff]
    simp only [Bool.and_eq_true, Bool.not_eq_true', decide_eq_true_eq, decide_eq_false_iff_not]
    omega

theorem getLsbD_clearHost (fits : length ≤ 128) :
    (clearHost address length).bits.getLsbD i =
      (address.bits.getLsbD i && decide (128 - length ≤ i)) := by
  rw [clearHost, BitVec.getLsbD_and, getLsbD_mask fits]
  by_cases inside : i < 128
  next => simp [inside]
  next => simp [BitVec.getLsbD_of_ge _ _ (Nat.le_of_not_lt inside)]

def Masked (range : Prefix) : Prop := clearHost range.address range.length = range.address

theorem clearHost_clearHost (address : Ip6) (length : Nat) :
    clearHost (clearHost address length) length = clearHost address length := by
  simp [clearHost, BitVec.and_assoc]

theorem new_of_fits (fits : length ≤ 128) :
    new address length = .ok ⟨clearHost address length, length, fits⟩ :=
  dif_pos fits

theorem new_of_long (long : 128 < length) : new address length = .error (.lengthOver128 length) :=
  dif_neg (Nat.not_le_of_lt long)

theorem masked_of_new (made : new address length = .ok range) : range.Masked := by
  unfold new at made
  split at made
  next =>
    cases made
    exact clearHost_clearHost address length
  next => cases made

theorem masked_of_ofCidr {text : String} (made : ofCidr text = .ok range) : range.Masked := by
  unfold ofCidr at made
  split at made
  next => cases made
  next =>
    split at made
    next => cases made
    next =>
      split at made
      next => cases made
      next => exact masked_of_new made

theorem Masked.getLsbD_eq_false (masked : range.Masked) (host : i < 128 - range.length) :
    range.address.bits.getLsbD i = false := by
  rw [← masked, getLsbD_clearHost range.length_le]
  simp [Nat.not_le.mpr host]

theorem Masked.contains_iff (masked : range.Masked) : range.contains address = true ↔
    ∀ i, 128 - range.length ≤ i → address.bits.getLsbD i = range.address.bits.getLsbD i := by
  rw [contains, decide_eq_true_eq]
  constructor
  next =>
    intro same i kept
    rw [← same, getLsbD_clearHost range.length_le]
    simp [kept]
  next =>
    intro agree
    have bits : (clearHost address range.length).bits = range.address.bits := by
      apply BitVec.eq_of_getLsbD_eq
      intro i inside
      rw [getLsbD_clearHost range.length_le]
      by_cases kept : 128 - range.length ≤ i
      next => simp [kept, agree i kept]
      next => simp [kept, masked.getLsbD_eq_false (Nat.lt_of_not_le kept)]
    exact congrArg Ip6.mk bits

end SniffingRelay.Prefix
