import SniffingRelay.Settings.ListenAddress
import SniffingRelay.Proofs.Ip.SocketText

set_option autoImplicit false

namespace SniffingRelay

open SocketAddress (Written)

namespace ListenAddress

section

variable {text port : String} {address : SocketAddress} {number : UInt16}

theorem read_of_number (reads : Numeral.Reads port.toList number.toNat) :
    read (":" ++ port) = .ok (some (.v4 .unspecified number)) := by
  have value : Numeral.read 0xffff port.toList = .ok number.toNat :=
    Numeral.read_eq_ok_iff.mpr ⟨reads, Nat.le_of_lt_succ number.toNat_lt⟩
  simp [read, value]

theorem read_of_no_number (none_reads : ¬∃ number : UInt16, Numeral.Reads port.toList number.toNat) :
    ∃ flaw, read (":" ++ port) = .error (.badPort (":" ++ port) flaw) := by
  cases value : Numeral.read 0xffff port.toList with
  | error flaw => exact ⟨flaw, by simp [read, value]⟩
  | ok value =>
    obtain ⟨reads, within⟩ := Numeral.read_eq_ok_iff.mp value
    rw [← UInt16.toNat_ofNat_of_lt' (Nat.lt_succ_of_le within)] at reads
    exact absurd ⟨_, reads⟩ none_reads

theorem read_colon_iff : read (":" ++ port) = .ok (some (.v4 .unspecified number)) ↔
    Numeral.Reads port.toList number.toNat := by
  refine ⟨?_, read_of_number⟩
  intro listening
  by_cases spelled : ∃ number : UInt16, Numeral.Reads port.toList number.toNat
  next =>
    obtain ⟨other, reads⟩ := spelled
    cases (read_of_number reads).symm.trans listening
    exact reads
  next =>
    obtain ⟨flaw, failed⟩ := read_of_no_number spelled
    cases failed.symm.trans listening

theorem read_of_written (written : Written text.toList address) :
    read text = .ok (some address) := by
  rw [read]
  split
  next nothing => exact absurd (nothing ▸ written) SocketAddress.not_written_nil
  next port colon => exact absurd (colon ▸ written) (SocketAddress.not_written_colon port)
  next => rw [SocketAddress.ofText?_iff_written.mpr written]

theorem read_of_unwritten (some_text : text ≠ "") (plain : text.toList.head? ≠ some ':')
    (unwritten : ¬∃ address, Written text.toList address) :
    read text = .error (.badAddress text) := by
  rw [read]
  split
  next nothing => exact absurd (String.toList_eq_nil_iff.mp nothing) some_text
  next colon => exact absurd (by rw [colon]; rfl) plain
  next => rw [SocketAddress.ofText?_eq_none_iff.mpr unwritten]

theorem read_iff_written (some_text : text ≠ "") (plain : text.toList.head? ≠ some ':') :
    read text = .ok (some address) ↔ Written text.toList address := by
  refine ⟨?_, read_of_written⟩
  intro listening
  by_cases written : ∃ address, Written text.toList address
  next =>
    obtain ⟨other, written⟩ := written
    cases (read_of_written written).symm.trans listening
    exact written
  next => cases (read_of_unwritten some_text plain written).symm.trans listening

theorem read_eq_none_iff : read text = .ok none ↔ text = "" := by
  constructor
  next =>
    intro nowhere
    rw [read] at nowhere
    repeat' split at nowhere
    any_goals cases nowhere
    next nothing => exact String.toList_eq_nil_iff.mp nothing
  next =>
    rintro rfl
    rfl

end

/-- Every socket address is listened on at its printed text. A text that begins with a colon stands
for a port on every IPv4 interface or is refused as that, and is no socket address text at all.
Without a text nothing is listened on, and any other one has to be a socket address text. -/
theorem listen_texts_are_read_exactly :
    (∀ address : SocketAddress, read address.text = .ok (some address)) ∧
      (∀ port : String,
        (∀ number : UInt16, read (":" ++ port) = .ok (some (.v4 .unspecified number)) ↔
          Numeral.Reads port.toList number.toNat) ∧
        ((¬∃ number : UInt16, Numeral.Reads port.toList number.toNat) →
          ∃ flaw, read (":" ++ port) = .error (.badPort (":" ++ port) flaw)) ∧
        ∀ address, ¬Written (":" ++ port).toList address) ∧
      (∀ text, read text = .ok none ↔ text = "") ∧
      ∀ text : String, text ≠ "" → text.toList.head? ≠ some ':' →
        (∀ address, read text = .ok (some address) ↔ Written text.toList address) ∧
        ((¬∃ address, Written text.toList address) → read text = .error (.badAddress text)) := by
  refine ⟨fun address => read_of_written address.text_written, fun port => ⟨?_, ?_, ?_⟩,
    fun _ => read_eq_none_iff, fun text some_text plain => ⟨?_, ?_⟩⟩
  next => exact fun _ => read_colon_iff
  next => exact read_of_no_number
  next =>
    intro address
    rw [String.toList_append]
    exact SocketAddress.not_written_colon port.toList
  next => exact fun _ => read_iff_written some_text plain
  next => exact read_of_unwritten some_text plain

theorem scoped_and_signed_texts_are_read_exactly :
    read "[::1%5]:443" = .ok (some (.v6 ⟨1⟩ 443 5)) ∧
      read ":+0443" = .ok (some (.v4 .unspecified 443)) ∧
      (∃ flaw, read "::1" = .error (.badPort "::1" flaw)) ∧ read "" = .ok none ∧
      read "localhost" = .error (.badAddress "localhost") := by
  obtain ⟨printed, colon, nothing, other⟩ := listen_texts_are_read_exactly
  refine ⟨printed (.v6 ⟨1⟩ 443 5), ((colon "+0443").1 443).mpr ?_, (colon ":1").2.1 ?_,
    (nothing "").mpr rfl, (other "localhost" (by simp) (by simp)).2 ?_⟩
  next => exact ⟨"0443".toList, .inr rfl, by decide, by simp [Numeral.digit?], rfl⟩
  next =>
    rintro ⟨number, reads⟩
    have value := Numeral.read_eq_ok_iff.mpr ⟨reads, Nat.le_of_lt_succ number.toNat_lt⟩
    cases value
  next => exact SocketAddress.ofText?_eq_none_iff.mp rfl

end ListenAddress

end SniffingRelay
