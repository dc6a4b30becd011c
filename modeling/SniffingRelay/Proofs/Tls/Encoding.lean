import Mathlib.Algebra.Group.Nat.Defs
import Mathlib.Data.List.Basic
import Mathlib.Data.List.Induction
import SniffingRelay.Tls.Hello

set_option autoImplicit false

-- Writers beside the readers of ClientHello parts. Each reader takes exactly what its writer wrote
-- and hands on the bytes after it.

namespace SniffingRelay.Tls

def writeNat (width value : Nat) : List UInt8 := (Digits.ofNat 256 width value).map UInt8.ofNat

def writeVector (width : Nat) (content : List UInt8) : List UInt8 :=
  writeNat width content.length ++ content

def writeText (text : String) : List UInt8 := text.toUTF8.data.toList

@[simp] theorem length_writeNat (width value : Nat) : (writeNat width value).length = width := by
  simp [writeNat]

@[simp] theorem length_writeVector (width : Nat) (content : List UInt8) :
    (writeVector width content).length = width + content.length := by
  simp [writeVector]

theorem bigEndian_writeNat (width value : Nat) :
    Hello.bigEndian (writeNat width value) = value % 256 ^ width := by
  have octets : (writeNat width value).map UInt8.toNat = Digits.ofNat 256 width value := by
    rw [writeNat, List.map_map]
    refine (List.map_congr_left fun digit found => ?_).trans (List.map_id _)
    have small := Digits.lt_of_mem_ofNat (by omega) found
    simpa using Nat.mod_eq_of_lt small
  rw [Hello.bigEndian, octets]
  exact Digits.toNat_ofNat 256 width value

theorem writeNat_one (value : Nat) : writeNat 1 value = [UInt8.ofNat value] := by
  simp [writeNat, Digits.ofNat, ← UInt8.toNat_inj]

theorem bigEndian_append_singleton (bytes : List UInt8) (last : UInt8) :
    Hello.bigEndian (bytes ++ [last]) = Hello.bigEndian bytes * 256 + last.toNat := by
  simp [Hello.bigEndian, Digits.toNat_append_singleton]

theorem bigEndian_lt (bytes : List UInt8) : Hello.bigEndian bytes < 256 ^ bytes.length := by
  induction bytes using List.reverseRecOn with
  | nil => simp [Hello.bigEndian, Digits.toNat]
  | append_singleton bytes last ih =>
    have last_lt := last.toNat_lt
    simp only [bigEndian_append_singleton, List.length_append, List.length_singleton, Nat.pow_succ]
    omega

theorem writeNat_bigEndian (bytes : List UInt8) :
    writeNat bytes.length (Hello.bigEndian bytes) = bytes := by
  induction bytes using List.reverseRecOn with
  | nil => rfl
  | append_singleton bytes last ih =>
    have last_lt := last.toNat_lt
    have front : (Hello.bigEndian bytes * 256 + last.toNat) / 256 = Hello.bigEndian bytes := by omega
    have back : (Hello.bigEndian bytes * 256 + last.toNat) % 256 = last.toNat := by omega
    rw [writeNat] at ih
    simp [bigEndian_append_singleton, writeNat, Digits.ofNat, front, back, ih]

namespace Hello

variable {field : Field}

theorem byte_eq_ok_iff {bytes rest : List UInt8} {value : UInt8} :
    byte field bytes = .ok (value, rest) ↔ bytes = value :: rest := by
  cases bytes <;> simp [byte]

theorem word_eq_ok_iff {bytes rest : List UInt8} {value : Nat} :
    word field bytes = .ok (value, rest) ↔ value < 2 ^ 16 ∧ bytes = writeNat 2 value ++ rest := by
  constructor
  next =>
    intro read
    match bytes with
    | [] | [_] => simp [word] at read
    | high :: low :: more =>
      simp only [word, Except.ok.injEq, Prod.mk.injEq] at read
      obtain ⟨rfl, rfl⟩ := read
      have written : writeNat 2 (bigEndian [high, low]) = [high, low] := writeNat_bigEndian [high, low]
      have small : bigEndian [high, low] < 256 ^ 2 := bigEndian_lt [high, low]
      exact ⟨small, by rw [written]; rfl⟩
  next =>
    rintro ⟨small, rfl⟩
    have read := bigEndian_writeNat 2 value
    have length := length_writeNat 2 value
    have within : value < 256 ^ 2 := small
    rw [Nat.mod_eq_of_lt within] at read
    generalize writeNat 2 value = octets at read length ⊢
    obtain ⟨high, low, rfl⟩ := List.length_eq_two.mp length
    simp [word, read]

theorem take_eq_ok_iff {count : Nat} {bytes taken rest : List UInt8} :
    take field count bytes = .ok (taken, rest) ↔ taken.length = count ∧ bytes = taken ++ rest := by
  simp only [take, List.splitAt_eq]
  constructor
  next =>
    intro read
    split at read
    next whole =>
      simp only [Except.ok.injEq, Prod.mk.injEq] at read
      exact ⟨read.1 ▸ whole, by rw [← read.1, ← read.2, List.take_append_drop]⟩
    next => simp at read
  next =>
    rintro ⟨rfl, rfl⟩
    simp

theorem byte_cons (value : UInt8) (rest : List UInt8) :
    byte field (value :: rest) = .ok (value, rest) := rfl

theorem word_writeNat {value : Nat} (small : value < 2 ^ 16) (rest : List UInt8) :
    word field (writeNat 2 value ++ rest) = .ok (value, rest) :=
  word_eq_ok_iff.mpr ⟨small, rfl⟩

theorem take_append {count : Nat} {taken : List UInt8} (width : taken.length = count)
    (rest : List UInt8) : take field count (taken ++ rest) = .ok (taken, rest) :=
  take_eq_ok_iff.mpr ⟨width, rfl⟩

theorem utf8?_eq_some_iff {bytes : List UInt8} {text : String} :
    utf8? bytes = some text ↔ bytes = writeText text := by
  rw [utf8?, String.fromUTF8?, writeText]
  constructor
  next =>
    intro read
    split at read
    next valid => simp [← Option.some.inj read, String.fromUTF8]
    next => simp at read
  next =>
    rintro rfl
    exact dif_pos text.isValidUTF8

end Hello

end SniffingRelay.Tls
