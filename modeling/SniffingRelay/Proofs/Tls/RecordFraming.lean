import SniffingRelay.Proofs.Stream.Feeding
import SniffingRelay.Proofs.Tls.Encoding
import SniffingRelay.Tls.Record

set_option autoImplicit false

namespace SniffingRelay.Tls

structure Record where
  major : UInt8
  minor : UInt8
  fragment : List UInt8
  fits : fragment.length < 2 ^ 16

def Record.written (content : UInt8) (record : Record) : List UInt8 :=
  content :: record.major :: record.minor :: writeVector 2 record.fragment

namespace PartialRecord

-- Something of the header or of the fragment is still to come.
def Sound : PartialRecord -> Prop
  | .header got => got.length < recordHeaderLength
  | .fragment length got => got.size < length

theorem sound_start : start.Sound := Nat.zero_lt_succ 4

theorem push_header_short {wanted : UInt8} {got : List UInt8} (byte : UInt8)
    (short : got.length + 1 < recordHeaderLength) :
    push wanted (.header got) byte = .more (.header (got ++ [byte])) := by
  unfold push ofHeader
  dsimp only
  split
  next whole =>
    have size := congrArg List.length whole
    simp only [List.length_append, List.length_cons, List.length_nil] at size
    rw [recordHeaderLength] at short
    omega
  next => rfl

theorem sound_of_push {wanted : UInt8} {arrived next : PartialRecord} {byte : UInt8}
    (sound : arrived.Sound) (pushed : push wanted arrived byte = .more next) : next.Sound := by
  cases arrived with
  | header got =>
    by_cases short : got.length + 1 < recordHeaderLength
    next =>
      rw [push_header_short byte short] at pushed
      obtain rfl := Progress.more.inj pushed
      simpa [Sound] using short
    next =>
      unfold push ofHeader at pushed
      dsimp only at pushed
      split at pushed
      next =>
        split at pushed
        next => simp at pushed
        next =>
          split at pushed
          next => simp at pushed
          next filled => exact Progress.more.inj pushed ▸ Nat.pos_of_ne_zero filled
      next other =>
        match got, sound with
        | [first, second, third, fourth], _ => exact absurd rfl (other first second third fourth byte)
        | [], _ | [_], _ | [_, _], _ | [_, _, _], _ => simp [recordHeaderLength] at short
  | fragment length got =>
    simp only [push] at pushed
    split at pushed
    next more => exact Progress.more.inj pushed ▸ more
    next => simp at pushed

end PartialRecord

theorem exact_recordReader (wanted : UInt8) : (recordReader wanted).Exact PartialRecord.Sound where
  room_pos state sound := by
    cases state with
    | header got => exact Nat.sub_pos_of_lt sound
    | fragment length got => exact Nat.sub_pos_of_lt sound
  push _ _ _ := PartialRecord.sound_of_push
  narrow state byte sound wide := by
    cases state with
    | header got =>
      simp only [recordReader, PartialRecord.room] at wide ⊢
      refine ⟨_, PartialRecord.push_header_short byte (by omega), ?_⟩
      simp only [List.length_append, List.length_singleton]
      omega
    | fragment length got =>
      simp only [recordReader, PartialRecord.room, PartialRecord.push, Array.size_push] at wide ⊢
      rw [if_pos (by omega)]
      refine ⟨_, rfl, ?_⟩
      simp only [Array.size_push]
      omega
  final _ := rfl

theorem feed_fragment {wanted : UInt8} {length : Nat} (got : Array UInt8) {bytes : List UInt8}
    (rest : List UInt8) (more : bytes ≠ []) (size : got.size + bytes.length = length) :
    (recordReader wanted).feed (.fragment length got) (bytes ++ rest) =
      (.settled (.ok (got.toList ++ bytes)), rest) := by
  induction bytes generalizing got with
  | nil => exact absurd rfl more
  | cons byte bytes ih =>
    rw [List.length_cons] at size
    have pushed : (recordReader wanted).push (.fragment length got) byte =
        if got.size + 1 < length then .more (.fragment length (got.push byte))
        else .settled (.ok (got.push byte).toList) := by
      simp [recordReader, PartialRecord.push]
    rw [List.cons_append, Reader.feed, pushed]
    by_cases last : bytes = []
    next =>
      subst last
      rw [if_neg (by simp at size; omega)]
      simp
    next =>
      have positive := List.length_pos_iff.mpr last
      rw [if_pos (by omega)]
      simpa using ih (got.push byte) last (by rw [Array.size_push]; omega)

theorem feed_header (wanted content major minor : UInt8) {length : Nat} (small : length < 2 ^ 16)
    (rest : List UInt8) :
    (recordReader wanted).feed .start (content :: major :: minor :: writeNat 2 length ++ rest) =
      if content ≠ wanted then (.settled (.error (.contentType content wanted)), rest)
      else if length = 0 then (.settled (.ok []), rest)
      else (recordReader wanted).feed (.fragment length #[]) rest := by
  have read := bigEndian_writeNat 2 length
  have size := length_writeNat 2 length
  have within : length < 256 ^ 2 := small
  rw [Nat.mod_eq_of_lt within] at read
  generalize writeNat 2 length = octets at read size ⊢
  match octets, size with
  | [high, low], _ =>
    simp only [List.cons_append, List.nil_append, Reader.feed, recordReader, PartialRecord.push,
      PartialRecord.start, PartialRecord.ofHeader, read]
    by_cases other : content = wanted <;> by_cases empty : length = 0 <;> simp [other, empty]

theorem feed_record (wanted : UInt8) (record : Record) (rest : List UInt8) :
    (recordReader wanted).feed .start (record.written wanted ++ rest) =
      (.settled (.ok record.fragment), rest) := by
  have header := feed_header wanted wanted record.major record.minor record.fits
    (record.fragment ++ rest)
  rw [if_neg (not_not_intro rfl)] at header
  simp only [Record.written, writeVector, List.cons_append, List.append_assoc] at header ⊢
  rw [header]
  by_cases empty : record.fragment = []
  next => simp [empty]
  next =>
    rw [if_neg (by simpa using empty), feed_fragment #[] rest empty (by simp)]
    simp

end SniffingRelay.Tls
