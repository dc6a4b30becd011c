set_option autoImplicit false

namespace SniffingRelay.Digits

-- The last `count` digits of `value`, highest first.
def ofNat (base : Nat) : Nat -> Nat -> List Nat
  | 0, _ => []
  | count + 1, value => ofNat base count (value / base) ++ [value % base]

def toNat (base : Nat) (digits : List Nat) : Nat :=
  digits.foldl (fun value digit => value * base + digit) 0

@[simp] theorem length_ofNat (base count value : Nat) : (ofNat base count value).length = count := by
  induction count generalizing value with
  | zero => rfl
  | succ count ih => simp [ofNat, ih]

theorem toNat_append_singleton (base : Nat) (digits : List Nat) (last : Nat) :
    toNat base (digits ++ [last]) = toNat base digits * base + last := by
  simp [toNat]

theorem toNat_ofNat (base count value : Nat) :
    toNat base (ofNat base count value) = value % Nat.pow base count := by
  induction count generalizing value with
  | zero => simp [ofNat, toNat, Nat.mod_one]
  | succ count ih =>
    rw [ofNat, toNat_append_singleton, ih, Nat.pow_eq, Nat.pow_eq, Nat.pow_succ', Nat.mod_mul,
      Nat.mul_comm, Nat.add_comm]

theorem lt_of_mem_ofNat {base count value digit : Nat} (positive : 0 < base)
    (found : digit ∈ ofNat base count value) : digit < base := by
  induction count generalizing value with
  | zero => simp [ofNat] at found
  | succ count ih =>
    rw [ofNat, List.mem_append, List.mem_singleton] at found
    cases found with
    | inl earlier => exact ih earlier
    | inr last => exact last ▸ Nat.mod_lt value positive

end SniffingRelay.Digits
