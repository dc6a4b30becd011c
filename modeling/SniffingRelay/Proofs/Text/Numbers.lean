import Mathlib
import SniffingRelay.Ip.Reader

set_option autoImplicit false

namespace SniffingRelay

namespace Numeral

structure Spells (radix : Nat) (text : List Char) (value : Nat) : Prop where
  nonempty : text ≠ []
  digits : ∀ c ∈ text, (digit? radix c).isSome = true
  same : Digits.toNat radix (text.filterMap (digit? radix)) = value

def Stops (radix : Nat) (rest : List Char) : Prop :=
  ∀ c, rest.head? = some c → digit? radix c = none

section

variable {radix value digit bound : Nat} {text rest : List Char}

theorem digit?_digitChar (radix : Nat) (fits : digit < 16) :
    digit? radix (Nat.digitChar digit) = if digit < radix then some digit else none := by
  have own : ∀ digit < 16, ∀ radix, digit? radix (Nat.digitChar digit) =
      if digit < radix then some digit else none := by
    intro digit fits radix
    interval_cases digit <;> rfl
  exact own digit fits radix

theorem bounds_of_digit? {c : Char} (found : (digit? radix c).isSome = true) :
    48 ≤ c.toNat ∧ c.toNat ≤ 122 := by
  have decimal : '0' ≤ c ∧ c ≤ '9' ↔ 48 ≤ c.toNat ∧ c.toNat ≤ 57 := Iff.rfl
  have lower : 'a' ≤ c ∧ c ≤ 'z' ↔ 97 ≤ c.toNat ∧ c.toNat ≤ 122 := Iff.rfl
  have upper : 'A' ≤ c ∧ c ≤ 'Z' ↔ 65 ≤ c.toNat ∧ c.toNat ≤ 90 := Iff.rfl
  grind [digit?]

-- What is no digit in base 16 is none in base 10.
theorem digit?_ten_eq_none {c : Char} (other : digit? 16 c = none) : digit? 10 c = none := by
  simp only [digit?, ite_eq_right_iff, reduceCtorEq, imp_false, Nat.not_lt] at other ⊢
  split_ifs at other ⊢ <;> omega

theorem spells_toDigits (big : 1 < radix) (small : radix ≤ 16) (value : Nat) :
    Spells radix (Nat.toDigits radix value) value := by
  induction value using Nat.strongRecOn with
  | ind value ih =>
    have own (digit : Nat) (less : digit < radix) :
        digit? radix (Nat.digitChar digit) = some digit := by
      rw [digit?_digitChar radix (by omega), if_pos less]
    by_cases single : value < radix
    next =>
      rw [Nat.toDigits_of_lt_base single]
      refine ⟨List.cons_ne_nil _ _, ?_, ?_⟩
      next => simp [own value single]
      next => simp [own value single, Digits.toNat]
    next =>
      have reach := Nat.le_of_not_lt single
      have last := own (value % radix) (Nat.mod_lt _ (by omega))
      obtain ⟨nonempty, digits, same⟩ := ih (value / radix) (Nat.div_lt_self (by omega) big)
      rw [Nat.toDigits_of_base_le big reach]
      refine ⟨by simp, ?_, ?_⟩
      next =>
        intro c found
        rcases List.mem_append.mp found with found | found
        next => exact digits c found
        next => simp [List.mem_singleton.mp found, last]
      next =>
        rw [List.filterMap_append, List.filterMap_cons_some last, List.filterMap_nil,
          Digits.toNat_append_singleton, same]
        exact Nat.div_add_mod' value radix

theorem digitRun_of_stops (stops : Stops radix rest) : digitRun radix rest = ([], rest) := by
  cases rest with
  | nil => rfl
  | cons c rest => simp only [digitRun, stops c rfl]

theorem digitRun_append (digits : ∀ c ∈ text, (digit? radix c).isSome = true)
    (stops : Stops radix rest) :
    digitRun radix (text ++ rest) = (text.filterMap (digit? radix), rest) := by
  induction text with
  | nil => exact digitRun_of_stops stops
  | cons c text ih =>
    obtain ⟨digit, own⟩ := Option.isSome_iff_exists.mp (digits c (List.mem_cons_self ..))
    have later := ih fun other found => digits other (List.mem_cons_of_mem _ found)
    simp [digitRun, own, later]

theorem suffix_of_digitRun (radix : Nat) (text : List Char) : (digitRun radix text).2 <:+ text := by
  induction text with
  | nil => exact List.suffix_refl _
  | cons c text ih =>
    rw [digitRun]
    cases digit? radix c with
    | none => exact List.suffix_refl _
    | some => exact ih.trans (List.suffix_cons ..)

theorem Spells.length_values (spells : Spells radix text value) :
    (text.filterMap (digit? radix)).length = text.length :=
  List.filterMap_length_eq_length.mpr spells.digits

-- A number is printed without zeros before it.
theorem eq_zero_of_head_toDigits (big : 1 < radix) (small : radix ≤ 16)
    (zero : ((Nat.toDigits radix value).filterMap (digit? radix)).head? = some 0) : value = 0 := by
  induction value using Nat.strongRecOn with
  | ind value ih =>
    by_cases single : value < radix
    next =>
      rw [Nat.toDigits_of_lt_base single] at zero
      simpa [digit?_digitChar radix (Nat.lt_of_lt_of_le single small), single] using zero
    next =>
      have reach := Nat.le_of_not_lt single
      have front := spells_toDigits big small (value / radix)
      have nonempty := front.length_values ▸ List.length_pos_iff.mpr front.nonempty
      rw [Nat.toDigits_of_base_le big reach, List.filterMap_append,
        List.head?_append_of_ne_nil _ (List.length_pos_iff.mp nonempty)] at zero
      have none_left := ih (value / radix) (Nat.div_lt_self (by omega) big) zero
      have some_left : 0 < value / radix := Nat.div_pos reach (by omega)
      omega

end

section

variable {value bound start : Nat} {text : List Char}

theorem le_foldl_digits (start : Nat) (digits : List Nat) :
    start ≤ digits.foldl (fun value digit => value * 10 + digit) start := by
  induction digits generalizing start with
  | nil => exact Nat.le_refl _
  | cons digit digits ih =>
    have later := ih (start * 10 + digit)
    rw [List.foldl_cons]
    omega

theorem accumulate_eq_ok_iff (within : start ≤ bound) : accumulate bound start text = .ok value ↔
    (∀ c ∈ text, (digit? 10 c).isSome = true) ∧
      (text.filterMap (digit? 10)).foldl (fun value digit => value * 10 + digit) start = value ∧
        value ≤ bound := by
  induction text generalizing start with
  | nil =>
    simp only [accumulate, Except.ok.injEq, List.filterMap_nil, List.foldl_nil]
    constructor
    next =>
      rintro rfl
      exact ⟨nofun, rfl, within⟩
    next => exact fun reads => reads.2.1
  | cons c text ih =>
    rw [accumulate]
    cases own : digit? 10 c with
    | none => simp [own]
    | some digit =>
      rw [List.filterMap_cons_some own, List.foldl_cons]
      by_cases beyond : bound < start * 10 + digit
      next =>
        simp only [beyond, if_true, reduceCtorEq, false_iff]
        rintro ⟨-, rfl, fits⟩
        have grows := le_foldl_digits (start * 10 + digit) (text.filterMap (digit? 10))
        omega
      next =>
        simp only [beyond, if_false]
        rw [ih (Nat.le_of_not_lt beyond)]
        simp [own]

-- Digits that spell a number, perhaps after a plus sign.
def Reads (text : List Char) (value : Nat) : Prop :=
  ∃ digits, (text = digits ∨ text = '+' :: digits) ∧ Spells 10 digits value

theorem accumulate_zero_iff (some_text : text ≠ []) :
    accumulate bound 0 text = .ok value ↔ Spells 10 text value ∧ value ≤ bound := by
  rw [accumulate_eq_ok_iff (Nat.zero_le _)]
  constructor
  next =>
    rintro ⟨digits, same, within⟩
    exact ⟨⟨some_text, digits, same⟩, within⟩
  next =>
    rintro ⟨⟨-, digits, same⟩, within⟩
    exact ⟨digits, same, within⟩

theorem not_spells_plus (digits : List Char) : ¬Spells 10 ('+' :: digits) value := by
  intro spells
  have plus := spells.digits '+' (List.mem_cons_self ..)
  revert plus
  decide

theorem reads_plus_iff (digits : List Char) :
    Reads ('+' :: digits) value ↔ Spells 10 digits value := by
  constructor
  next =>
    rintro ⟨others, rfl | same, spells⟩
    next => exact absurd spells (not_spells_plus digits)
    next => exact (List.cons.inj same).2 ▸ spells
  next => exact fun spells => ⟨digits, .inr rfl, spells⟩

theorem reads_iff_of_unsigned (unsigned : ∀ digits, text ≠ '+' :: digits) :
    Reads text value ↔ Spells 10 text value := by
  constructor
  next =>
    rintro ⟨digits, rfl | signed, spells⟩
    next => exact spells
    next => exact absurd signed (unsigned digits)
  next => exact fun spells => ⟨text, .inl rfl, spells⟩

theorem read_eq_ok_iff : read bound text = .ok value ↔ Reads text value ∧ value ≤ bound := by
  have empty : ¬Spells 10 [] value := fun spells => spells.nonempty rfl
  unfold read
  split
  next => simp [reads_iff_of_unsigned, empty]
  next => simp [reads_plus_iff, empty]
  next digits some_digits =>
    rw [reads_plus_iff]
    exact accumulate_zero_iff fun nothing => some_digits (nothing ▸ rfl)
  next some_text _ unsigned =>
    rw [reads_iff_of_unsigned unsigned]
    exact accumulate_zero_iff some_text

theorem reads_toDigits (value : Nat) : Reads (Nat.toDigits 10 value) value :=
  ⟨_, .inl rfl, spells_toDigits (by decide) (by decide) value⟩

end

end Numeral

namespace TextReader

open Numeral

section

variable {radix value bound : Nat} {text rest : List Char} {maxDigits : Option Nat} {leading : Bool}

theorem number_of_spells (spells : Spells radix text value) (stops : Stops radix rest)
    (short : ∀ most, maxDigits = some most → text.length ≤ most)
    (plain : leading = false → (text.filterMap (digit? radix)).head? = some 0 → text.length ≤ 1)
    (within : value ≤ bound) :
    number radix maxDigits leading bound (text ++ rest) = some (value, rest) := by
  have length := spells.length_values
  have some_digits : text.filterMap (digit? radix) ≠ [] := by
    rw [← List.length_pos_iff, length]
    exact List.length_pos_iff.mpr spells.nonempty
  have not_long : ¬maxDigits.any (· < (text.filterMap (digit? radix)).length) = true := by
    rw [length]
    cases maxDigits with
    | none => exact nofun
    | some most => simpa using short most rfl
  have not_padded : ¬(leading = false ∧ (text.filterMap (digit? radix)).head? = some 0 ∧
      1 < (text.filterMap (digit? radix)).length) := by
    rintro ⟨forbidden, zero, more⟩
    have single := plain forbidden zero
    omega
  simp only [number, digitRun_append spells.digits stops, spells.same, if_neg some_digits,
    if_neg not_long, if_neg not_padded, if_neg (Nat.not_lt.mpr within)]

theorem suffix_of_number (found : number radix maxDigits leading bound text = some (value, rest)) :
    rest <:+ text := by
  unfold number at found
  dsimp only at found
  repeat' split at found
  all_goals cases found
  exact suffix_of_digitRun radix text

theorem number_toDigits (big : 1 < radix) (small : radix ≤ 16) (stops : Stops radix rest)
    (short : ∀ most, maxDigits = some most → 0 < most ∧ value < radix ^ most)
    (within : value ≤ bound) :
    number radix maxDigits leading bound (Nat.toDigits radix value ++ rest) =
      some (value, rest) := by
  refine number_of_spells (spells_toDigits big small value) stops ?_ ?_ within
  next =>
    intro most limited
    obtain ⟨positive, fits⟩ := short most limited
    exact (Nat.length_toDigits_le_iff big positive).mpr fits
  next =>
    intro _ zero
    obtain rfl := eq_zero_of_head_toDigits big small zero
    rw [Nat.toDigits_of_lt_base (Nat.lt_trans Nat.zero_lt_one big)]
    exact Nat.le_refl _

end

end TextReader

end SniffingRelay
