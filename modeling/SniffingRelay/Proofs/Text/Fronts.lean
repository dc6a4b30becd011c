import SniffingRelay.Proofs.Text.Numbers

set_option autoImplicit false

-- A reader takes a front of its text. If what it leaves could not go on with that front, the front
-- is a whole text of its own for the reader.

namespace SniffingRelay

namespace Numeral

variable {radix : Nat} {rest : List Char}

theorem stops_cons {c : Char} (other : digit? radix c = none) (rest : List Char) :
    Stops radix (c :: rest) := by
  rintro _ ⟨⟩
  exact other

theorem exists_digits (radix : Nat) (text : List Char) : ∃ digits,
    text = digits ++ (digitRun radix text).2 ∧ (∀ c ∈ digits, (digit? radix c).isSome = true) ∧
      (digitRun radix text).1 = digits.filterMap (digit? radix) ∧
        Stops radix (digitRun radix text).2 := by
  induction text with
  | nil => exact ⟨[], rfl, nofun, rfl, nofun⟩
  | cons c text ih =>
    cases own : digit? radix c with
    | none =>
      simp only [digitRun, own]
      exact ⟨[], rfl, nofun, rfl, stops_cons own text⟩
    | some digit =>
      obtain ⟨digits, split, found, values, stops⟩ := ih
      simp only [digitRun, own]
      refine ⟨c :: digits, by rw [List.cons_append, ← split], ?_, ?_, stops⟩
      next => exact List.forall_mem_cons.mpr ⟨by rw [own]; rfl, found⟩
      next => rw [List.filterMap_cons_some own, values]

theorem digitRun_append_of_stops (stops : Stops radix rest) (text : List Char) :
    digitRun radix (text ++ rest) = ((digitRun radix text).1, (digitRun radix text).2 ++ rest) := by
  induction text with
  | nil => exact digitRun_of_stops stops
  | cons c text ih =>
    rw [List.cons_append, digitRun, digitRun]
    cases digit? radix c with
    | none => rfl
    | some digit => simp only [ih]

end Numeral

namespace TextReader

open Numeral

section

variable {A B : Type} {reader : TextReader A} {next : A -> TextReader B} {value : A}
  {text rest : List Char} {wanted : Char}

def Leaves (reader : TextReader A) : Prop :=
  ∀ text value after, reader text = some (value, after) → after <:+ text

-- A reader reads the same if this follows its text, and leaves it.
def Passes (rest : List Char) (reader : TextReader A) : Prop :=
  ∀ text, reader (text ++ rest) = (reader text).map fun read => (read.1, read.2 ++ rest)

theorem eq_some_iff (leaves : Leaves reader) (passes : Passes rest reader) :
    reader text = some (value, rest) ↔
      ∃ front, text = front ++ rest ∧ reader front = some (value, []) := by
  constructor
  next =>
    intro read
    obtain ⟨front, rfl⟩ := leaves _ _ _ read
    refine ⟨front, rfl, ?_⟩
    rw [passes, Option.map_eq_some_iff] at read
    obtain ⟨⟨found, after⟩, read, same⟩ := read
    obtain ⟨rfl, left⟩ := Prod.mk.inj same
    have nothing : after = [] := List.append_left_eq_self.mp left
    rw [read, nothing]
  next =>
    rintro ⟨front, rfl, read⟩
    rw [passes, read]
    rfl

theorem whole_eq_some_iff {text : String} :
    whole reader text = some value ↔ reader text.toList = some (value, []) := by
  rw [whole]
  split
  next found read => simp [read]
  next other =>
    refine iff_of_false nofun ?_
    intro read
    exact other value read

theorem char_eq_some_iff : char wanted text = some rest ↔ text = wanted :: rest := by
  cases text with
  | nil => simp [char]
  | cons c text =>
    rw [char]
    split
    next same => simp [same]
    next other => simp [other]

theorem char_append (other : rest.head? ≠ some wanted) (text : List Char) :
    char wanted (text ++ rest) = (char wanted text).map (· ++ rest) := by
  cases text with
  | nil =>
    cases rest with
    | nil => rfl
    | cons c rest =>
      have different : c ≠ wanted := fun same => other (congrArg some same)
      simp [char, different]
  | cons c text =>
    rw [List.cons_append, char, char]
    split <;> rfl

theorem leaves_pure (value : A) : Leaves fun text => some (value, text) := by
  rintro text _ _ ⟨⟩
  exact List.suffix_refl _

theorem Leaves.bind (leaves : Leaves reader) (later : ∀ value, Leaves (next value)) :
    Leaves fun text => (reader text).bind fun read => next read.1 read.2 := by
  intro text value after read
  obtain ⟨⟨found, middle⟩, first, second⟩ := Option.bind_eq_some_iff.mp read
  exact (later _ _ _ _ second).trans (leaves _ _ _ first)

theorem Leaves.after_char (leaves : Leaves reader) (wanted : Char) :
    Leaves fun text => (char wanted text).bind reader := by
  intro text value after read
  obtain ⟨middle, first, second⟩ := Option.bind_eq_some_iff.mp read
  obtain rfl := char_eq_some_iff.mp first
  exact (leaves _ _ _ second).trans (List.suffix_cons ..)

theorem passes_pure (rest : List Char) (value : A) : Passes rest fun text => some (value, text) :=
  fun _ => rfl

theorem Passes.bind (passes : Passes rest reader) (later : ∀ value, Passes rest (next value)) :
    Passes rest fun text => (reader text).bind fun read => next read.1 read.2 := by
  intro text
  dsimp only
  rw [passes, Option.bind_map, Option.map_bind]
  congr 1
  funext read
  exact later read.1 read.2

theorem Passes.after_char (passes : Passes rest reader) (other : rest.head? ≠ some wanted) :
    Passes rest fun text => (char wanted text).bind reader := by
  intro text
  dsimp only
  rw [char_append other, Option.bind_map, Option.map_bind]
  congr 1
  funext after
  exact passes after

end

section

variable {radix value bound : Nat} {text rest : List Char} {maxDigits : Option Nat} {leading : Bool}

theorem leaves_number : Leaves (number radix maxDigits leading bound) :=
  fun _ _ _ read => suffix_of_number read

theorem passes_number (stops : Stops radix rest) :
    Passes rest (number radix maxDigits leading bound) := by
  intro text
  simp only [number, digitRun_append_of_stops stops]
  repeat' split
  all_goals rfl

theorem number_eq_some_iff : number radix none true bound text = some (value, rest) ↔
    ∃ digits, text = digits ++ rest ∧ Spells radix digits value ∧ value ≤ bound ∧
      Stops radix rest := by
  constructor
  next =>
    intro read
    obtain ⟨digits, split, found, values, stops⟩ := exists_digits radix text
    simp only [number, values] at read
    repeat' split at read
    any_goals cases read
    next some_digits _ _ within =>
      have nonempty : digits ≠ [] := by
        rintro rfl
        exact some_digits rfl
      exact ⟨digits, split, ⟨nonempty, found, rfl⟩, Nat.le_of_not_lt within, stops⟩
  next =>
    rintro ⟨digits, rfl, spells, within, stops⟩
    exact number_of_spells spells stops (by simp) (by simp) within

end

end TextReader

end SniffingRelay
