import SniffingRelay.Proofs.Tls.Intake

set_option autoImplicit false

namespace SniffingRelay.Tls

namespace Handshake

def advance (message : Array UInt8) :
    Progress PartialRecord (Except HelloError (List UInt8)) -> Progress Handshake (Except HelloError Hello)
  | .more record => .more ⟨message, record⟩
  | .settled (.error error) => .settled (.error error)
  | .settled (.ok bytes) =>
      if bytes.isEmpty then .settled (.error .emptyRecord)
      else
        match verdict (message ++ bytes) with
        | some result => .settled result
        | none => .more { message := message ++ bytes }

theorem push_eq_advance (state : Handshake) (byte : UInt8) :
    handshakeReader.push state byte =
      advance state.message (state.record.push handshakeContent byte) := by
  change state.push byte = _
  rw [push]
  cases state.record.push handshakeContent byte with
  | more record => rfl
  | settled result => cases result <;> rfl

theorem collects_header (message : Array UInt8) :
    handshakeReader.Collects recordHeaderLength (fun got => ⟨message, .header got⟩)
      (fun header => advance message (PartialRecord.ofHeader handshakeContent header))
      (fun fault => .error (.recordHeader fault)) where
  room _ := rfl
  push got byte _ := by
    rw [push_eq_advance]
    by_cases short : got.length + 1 < recordHeaderLength
    next =>
      rw [if_pos short, PartialRecord.push_header_short byte short]
      rfl
    next =>
      rw [if_neg short]
      rfl
  finish _ stop := rfl
  resume _ := rfl

theorem collects_fragment (message : Array UInt8) (length : Nat) :
    handshakeReader.Collects length (fun got => ⟨message, .fragment length got.toArray⟩)
      (fun bytes => advance message (.settled (.ok bytes)))
      (fun fault => .error (.recordFragment length fault)) where
  room _ := rfl
  push got byte _ := by
    rw [push_eq_advance]
    simp only [PartialRecord.push, List.push_toArray, List.size_toArray, List.length_append,
      List.length_singleton]
    by_cases short : got.length + 1 < length
    next =>
      rw [if_pos short, if_pos short]
      rfl
    next => rw [if_neg short, if_neg short]
  finish _ stop := rfl
  resume _ := rfl

-- A body without bytes is not waited for.
theorem proceed_body (message : Array UInt8) (length : Nat) (source : Recording) :
    ∃ result next,
      Intake.exactly Recording.supply length (.recordFragment length) source = some (result, next) ∧
        handshakeReader.proceed
          (advance message (if length = 0 then .settled (.ok []) else .more (.fragment length #[]))) source =
            handshakeReader.proceed (advance message (.settled result)) next := by
  by_cases empty : length = 0
  next =>
    subst empty
    have nothing : Recording.supply.exactly 0 source = (.ok [], source) := by
      change source.readExactly 0 = _
      rw [Recording.readExactly, if_pos rfl]
    exact ⟨.ok [], source, Intake.exactly_eq_ok_iff.mpr nothing, rfl⟩
  next =>
    have positive := Nat.pos_of_ne_zero empty
    rw [if_neg empty]
    obtain ⟨result, next, taken, read, -⟩ :=
      Intake.exists_exactly Recording.supply length (.recordFragment length) source
    refine ⟨result, next, read, ?_⟩
    cases result with
    | error error =>
      obtain ⟨fault, answer, rfl⟩ := Intake.exactly_eq_error_iff.mp read
      exact (collects_fragment message length).run_of_error positive answer
    | ok bytes =>
      exact (collects_fragment message length).run_of_ok positive (Intake.exactly_eq_ok_iff.mp read)

theorem run_record (message : Array UInt8) (source : Recording) :
    ∃ result next, Intake.record Recording.supply handshakeContent source = some (result, next) ∧
      handshakeReader.run { message } source =
        handshakeReader.proceed (advance message (.settled result)) next := by
  have header_length : 0 < recordHeaderLength := by decide
  obtain ⟨result, next, header, read, -, -, whole⟩ :=
    Intake.exists_exactly Recording.supply recordHeaderLength .recordHeader source
  cases result with
  | error error =>
    obtain ⟨fault, answer, rfl⟩ := Intake.exactly_eq_error_iff.mp read
    refine ⟨_, next, by rw [Intake.record, Intake.bind_of_error read], ?_⟩
    exact (collects_header message).run_of_error header_length answer
  | ok got =>
    obtain ⟨rfl, size⟩ := whole got rfl
    have ran : handshakeReader.run { message } source = _ :=
      (collects_header message).run_of_ok header_length (Intake.exactly_eq_ok_iff.mp read)
    obtain ⟨content, major, minor, high, low, rfl⟩ := Intake.eq_of_recordHeaderLength size
    rw [Intake.record_of_header read, ran, PartialRecord.ofHeader]
    by_cases other : content ≠ handshakeContent
    next =>
      rw [if_pos other, if_pos other]
      exact ⟨_, next, rfl, rfl⟩
    next =>
      rw [if_neg other, if_neg other]
      exact proceed_body message (Hello.bigEndian [high, low]) next

theorem run_fragment (message : Array UInt8) (source : Recording) :
    ∃ result next, Intake.fragment Recording.supply source = some (result, next) ∧
      (∀ error, result = .error error →
        handshakeReader.run { message } source = ⟨.error error, [], next⟩) ∧
      ∀ bytes, result = .ok bytes → handshakeReader.run { message } source =
        match verdict (message ++ bytes) with
        | some result => ⟨result, [], next⟩
        | none => handshakeReader.run { message := message ++ bytes } next := by
  obtain ⟨result, next, read, ran⟩ := run_record message source
  rw [Intake.fragment]
  cases result with
  | error error =>
    refine ⟨_, next, Intake.bind_of_error read _, ?_, by simp⟩
    rintro _ ⟨⟩
    exact ran
  | ok bytes =>
    rw [Intake.bind_of_ok read, ran, advance]
    by_cases empty : bytes.isEmpty = true
    next =>
      rw [if_pos empty, if_pos empty]
      refine ⟨_, next, rfl, ?_, by simp⟩
      rintro _ ⟨⟩
      rfl
    next =>
      rw [if_neg empty, if_neg empty]
      refine ⟨_, next, rfl, by simp, ?_⟩
      rintro _ ⟨⟩
      cases verdict (message ++ bytes) <;> rfl

section

variable {source next : Recording} {message : List UInt8}

theorem run_of_error {error : HelloError}
    (read : Intake.fragment Recording.supply source = some (.error error, next)) :
    handshakeReader.run { message := message.toArray } source = ⟨.error error, [], next⟩ := by
  obtain ⟨result', next', read', failed, -⟩ := run_fragment message.toArray source
  obtain ⟨rfl, rfl⟩ := Prod.mk.inj (Option.some.inj (read.symm.trans read'))
  exact failed error rfl

theorem run_of_ok {bytes : List UInt8}
    (read : Intake.fragment Recording.supply source = some (.ok bytes, next)) :
    handshakeReader.run { message := message.toArray } source =
      match verdict (message ++ bytes).toArray with
      | some result => ⟨result, [], next⟩
      | none => handshakeReader.run { message := (message ++ bytes).toArray } next := by
  obtain ⟨result', next', read', -, went⟩ := run_fragment message.toArray source
  obtain ⟨rfl, rfl⟩ := Prod.mk.inj (Option.some.inj (read.symm.trans read'))
  have longer : message.toArray ++ bytes = (message ++ bytes).toArray := by simp
  rw [← longer]
  exact went bytes rfl

end

end Handshake

namespace Intake

open Handshake (verdict announced)

variable {S : Type}

section

variable {supply : Supply S} {start now : S} {message : List UInt8}

theorem length_of_pending (arrived : message ≠ []) (pending : verdict message.toArray = none) :
    message.length < 4 + messageLimit ∧ (4 ≤ message.length → announced message ≤ messageLimit) := by
  have undecided : message.length < Handshake.decisive message := by
    rw [Handshake.verdict_eq arrived] at pending
    split at pending
    next => cases pending
    next waits => exact Nat.not_le.mp waits
  obtain ⟨kind, rest, rfl⟩ := List.exists_cons_of_ne_nil arrived
  simp only [Handshake.decisive] at undecided
  split at undecided
  next => simp at undecided
  next =>
    split at undecided
    next => omega
    next admitted =>
      rw [not_or] at admitted
      omega

-- What is true of records that leave the message open.
structure Modest (supply : Supply S) (start : S) (fragments : List (List UInt8)) (source : S) : Prop where
  filled : ∀ bytes ∈ fragments, bytes ≠ []
  pending : ∀ front, front <+: fragments → front ≠ [] → verdict front.flatten.toArray = none
  pulled : ∃ taken, supply.heard source = supply.heard start ++ taken ∧
    taken.length = fragments.length * recordHeaderLength + fragments.flatten.length

theorem Gathers.modest {fragments : List (List UInt8)} {source : S}
    (gathers : Gathers supply start fragments source) : Modest supply start fragments source := by
  induction gathers with
  | none =>
    refine ⟨by simp, ?_, [], by simp, rfl⟩
    intro front begins present
    exact absurd (List.prefix_nil.mp begins) present
  | @more fragments source next bytes before read pending ih =>
    obtain ⟨⟨taken, outcome⟩, filled⟩ := outcome_of_fragment read
    obtain ⟨earlier, earlier_heard, earlier_length⟩ := ih.pulled
    refine ⟨?_, ?_, earlier ++ taken, ?_, ?_⟩
    next =>
      intro other found
      rcases List.mem_append.mp found with found | found
      next => exact ih.filled other found
      next =>
        obtain rfl := List.mem_singleton.mp found
        exact filled other rfl
    next =>
      intro front begins present
      rcases List.prefix_concat_iff.mp begins with rfl | begins
      next => simpa using pending
      next => exact ih.pending front begins present
    next => rw [outcome.heard, earlier_heard, List.append_assoc]
    next =>
      have whole := outcome.whole bytes rfl
      simp only [List.length_append, List.flatten_append, List.length_singleton, List.flatten_singleton,
        earlier_length, whole]
      rw [Nat.add_mul]
      omega

theorem length_le_length_flatten {fragments : List (List UInt8)}
    (filled : ∀ bytes ∈ fragments, bytes ≠ []) : fragments.length ≤ fragments.flatten.length := by
  induction fragments with
  | nil => exact Nat.le_refl 0
  | cons bytes fragments ih =>
    have later := ih fun other found => filled other (List.mem_cons_of_mem _ found)
    have positive := List.length_pos_iff.mpr (filled bytes List.mem_cons_self)
    simp only [List.length_cons, List.flatten_cons, List.length_append]
    omega

theorem flatten_ne_nil {fragments : List (List UInt8)} (filled : ∀ bytes ∈ fragments, bytes ≠ [])
    (present : fragments ≠ []) : fragments.flatten ≠ [] := by
  have long := length_le_length_flatten filled
  have positive := List.length_pos_iff.mpr present
  exact List.length_pos_iff.mp (by omega)

theorem Modest.length_flatten {fragments : List (List UInt8)} {source : S}
    (modest : Modest supply start fragments source) : fragments.flatten.length < 4 + messageLimit := by
  by_cases present : fragments = []
  next => simp [present, messageLimit]
  next =>
    have pending := modest.pending fragments List.prefix_rfl present
    exact (length_of_pending (flatten_ne_nil modest.filled present) pending).1

theorem Modest.announced {fragments front : List (List UInt8)} {source : S}
    (modest : Modest supply start fragments source) (begins : front <+: fragments)
    (long : 4 ≤ front.flatten.length) : announced front.flatten ≤ messageLimit := by
  have present : front ≠ [] := by
    rintro rfl
    simp at long
  have filled : ∀ bytes ∈ front, bytes ≠ [] := fun bytes found => modest.filled bytes (begins.subset found)
  exact (length_of_pending (flatten_ne_nil filled present) (modest.pending front begins present)).2 long

end

theorem run_of_gathers {start source : Recording} {fragments : List (List UInt8)}
    (gathers : Gathers Recording.supply start fragments source) :
    handshakeReader.run {} start = handshakeReader.run { message := fragments.flatten.toArray } source := by
  induction gathers with
  | none => rfl
  | @more fragments source next bytes before read pending ih =>
    rw [ih, Handshake.run_of_ok read, pending, List.flatten_concat]

theorem hello_recording (source : Recording) :
    hello Recording.supply source =
      some ((handshakeReader.run {} source).result, (handshakeReader.run {} source).source) := by
  obtain ⟨result, next, sniffed, settles⟩ := hello_settles Recording.supply source
  have ran : handshakeReader.run {} source = ⟨result, [], next⟩ := by
    cases settles with
    | failed before read => rw [run_of_gathers before, Handshake.run_of_error read]
    | decided before read decides => rw [run_of_gathers before, Handshake.run_of_ok read, decides]
  rw [sniffed, ran]

/-- The records that are read for a hello: those that leave the message open, and the last one. -/
structure Course (supply : Supply S) (start : S) (result : Except HelloError Hello) (after : S)
    (fragments : List (List UInt8)) (source : S) (last : Except HelloError (List UInt8)) : Prop where
  gathers : Gathers supply start fragments source
  read : fragment supply source = some (last, after)
  failed : ∀ error, last = .error error → result = .error error
  decided : ∀ bytes, last = .ok bytes → verdict (fragments.flatten ++ bytes).toArray = some result
  records : fragments.length + 1 ≤ 65540
  -- Each turn adds to the message.
  filled : ∀ bytes ∈ fragments, bytes ≠ []
  last_filled : ∀ bytes, last = .ok bytes → bytes ≠ []
  message : fragments.flatten.length ≤ 65539
  last_message : ∀ bytes, last = .ok bytes →
    bytes.length ≤ 65535 ∧ (fragments.flatten ++ bytes).length ≤ 131074
  -- No record is read after a header that announces too much.
  admitted : ∀ front, front <+: fragments → 4 ≤ front.flatten.length →
    announced front.flatten ≤ 65536
  taken : ∃ bytes, supply.heard after = supply.heard start ++ bytes ∧ bytes.length ≤ 458774

theorem Settles.exists_course {supply : Supply S} {start after : S} {result : Except HelloError Hello}
    (settles : Settles supply start result after) :
    ∃ fragments source last, Course supply start result after fragments source last := by
  have chain : ∃ fragments source last, Gathers supply start fragments source ∧
      fragment supply source = some (last, after) ∧ (∀ error, last = .error error → result = .error error) ∧
        ∀ bytes, last = .ok bytes → verdict (fragments.flatten ++ bytes).toArray = some result := by
    cases settles with
    | failed before read => exact ⟨_, _, _, before, read, by simp, by simp⟩
    | decided before read decides => exact ⟨_, _, _, before, read, by simp, by simpa using decides⟩
  obtain ⟨fragments, source, last, gathers, read, failed, decided⟩ := chain
  obtain ⟨⟨taken, outcome⟩, filled⟩ := outcome_of_fragment read
  have modest := gathers.modest
  have message := modest.length_flatten
  have records := length_le_length_flatten modest.filled
  have last_length (bytes : List UInt8) (same : last = .ok bytes) : bytes.length ≤ 65535 := by
    have short := outcome.short
    have whole := outcome.whole bytes same
    omega
  obtain ⟨earlier, earlier_heard, earlier_length⟩ := modest.pulled
  rw [messageLimit] at message
  refine ⟨fragments, source, last, gathers, read, failed, decided, by omega, modest.filled, filled,
    by omega, ?_, fun front begins long => modest.announced begins long, earlier ++ taken, ?_, ?_⟩
  next =>
    intro bytes same
    have short := last_length bytes same
    rw [List.length_append]
    omega
  next => rw [outcome.heard, earlier_heard, List.append_assoc]
  next =>
    have short := outcome.short
    rw [recordHeaderLength] at short earlier_length
    rw [List.length_append]
    omega

theorem exists_settling_front {bytes : List UInt8} (long : 458774 < bytes.length) :
    ∃ result front, front <+: bytes ∧ front.length ≤ 458774 ∧
      handshakeReader.feed {} front = (.settled result, []) := by
  have gives : ({ ahead := [.bytes bytes] } : Recording).Gives bytes := by
    refine ⟨rfl, ?_, by simp [Recording.remaining, Arrival.content]⟩
    have present := List.length_pos_iff.mp (Nat.zero_lt_of_lt long)
    simpa [Recording.Steady, Arrival.IsSteady] using present
  generalize ({ ahead := [.bytes bytes] } : Recording) = source at gives
  obtain ⟨result, after, sniffed, settles⟩ := hello_settles Recording.supply source
  obtain ⟨fragments, before, last, course⟩ := settles.exists_course
  obtain ⟨taken, heard, short⟩ := course.taken
  rw [hello_recording source] at sniffed
  cases sniffed
  have fresh : (handshakeReader.run {} source).source.heard.toList = taken := by
    simpa [Recording.supply, gives.fresh] using heard
  have conserved : (handshakeReader.run {} source).source.heard.toList ++
      (handshakeReader.run {} source).source.remaining = bytes := Reader.heard_append_remaining gives
  have sound : ({} : Handshake).record.Sound := PartialRecord.sound_start
  have spare := Handshake.exact_handshakeReader.spare_run source sound
  have ran := Reader.run_steady Handshake.exact_handshakeReader.toLively sound gives.steady
  rw [spare, List.nil_append, gives.sent, Reader.conclude] at ran
  rw [fresh] at conserved
  split at ran
  next =>
    obtain ⟨-, exhausted⟩ := Prod.mk.inj ran
    have size := congrArg List.length conserved
    simp only [exhausted, List.append_nil] at size
    omega
  next result rest fed =>
    obtain ⟨-, left⟩ := Prod.mk.inj ran
    obtain ⟨front, split, settles, -⟩ := Reader.exists_front_of_feed fed
    have same : taken = front := List.append_cancel_right (left ▸ conserved.trans split)
    exact ⟨result, front, ⟨rest, split.symm⟩, same ▸ short, by simpa using settles []⟩

/-- Every supply, also one without end, is left after so many records and bytes. As a supply may keep
a log of what is asked of it, no other reads are made. -/
theorem sniffing_is_bounded :
    (∀ (S : Type) (supply : Supply S) (start : S), ∃ result after,
      hello supply start = some (result, after) ∧
        ∃ fragments source last, Course supply start result after fragments source last) ∧
      (∀ source : Recording, hello Recording.supply source =
        some ((handshakeReader.run {} source).result, (handshakeReader.run {} source).source)) ∧
      (∀ bytes : Nat -> UInt8, ∃ result count,
        hello (Supply.endless bytes) 0 = some (result, count) ∧ count ≤ 458774) ∧
      ∀ bytes : Nat -> UInt8, ∃ result count, count ≤ 458774 ∧
        handshakeReader.feed {} ((List.range count).map bytes) = (.settled result, []) := by
  refine ⟨fun S supply start => ?_, hello_recording, fun bytes => ?_, fun bytes => ?_⟩
  next =>
    obtain ⟨result, after, sniffed, settles⟩ := hello_settles supply start
    exact ⟨result, after, sniffed, settles.exists_course⟩
  next =>
    obtain ⟨result, count, sniffed, settles⟩ := hello_settles (Supply.endless bytes) 0
    obtain ⟨fragments, source, last, course⟩ := settles.exists_course
    obtain ⟨taken, heard, short⟩ := course.taken
    have size := congrArg List.length heard
    simp only [Supply.endless, List.length_append, List.length_map, List.length_range] at size
    exact ⟨result, count, sniffed, by omega⟩
  next =>
    obtain ⟨limit, limit_eq⟩ : ∃ limit, limit = 458774 + 1 := ⟨_, rfl⟩
    have long : 458774 < ((List.range limit).map bytes).length := by
      rw [List.length_map, List.length_range]
      omega
    obtain ⟨result, front, begins, short, fed⟩ := exists_settling_front long
    have same : front = (List.range front.length).map bytes := by
      have cut := List.prefix_iff_eq_take.mp begins
      rw [← List.map_take, List.take_range, Nat.min_eq_left (by omega)] at cut
      exact cut
    exact ⟨result, front.length, short, same ▸ fed⟩

/-- No access of the sniffing is out of bounds, and no loop goes round without taking bytes. -/
theorem sniffing_stays_in_bounds :
    (∀ field count bytes, Cursor.take field count bytes = some (Hello.take field count bytes)) ∧
      (∀ field bytes, Cursor.byte field bytes = some (Hello.byte field bytes)) ∧
      (∀ field bytes, Cursor.word field bytes = some (Hello.word field bytes)) ∧
      (∀ payload, Cursor.nameList payload = some (Hello.nameList payload)) ∧
      (∀ body, Cursor.parse body = some (Hello.parse body)) ∧
      (∀ (S : Type) (supply : Supply S) (start : S), ∃ result after,
        hello supply start = some (result, after)) ∧
      ∀ source : Recording, hello Recording.supply source =
        some ((handshakeReader.run {} source).result, (handshakeReader.run {} source).source) := by
  refine ⟨?_, ?_, ?_, Cursor.nameList_eq, Cursor.parse_eq, ?_, hello_recording⟩
  next =>
    intro field count bytes
    rw [Cursor.take_eq]
    rfl
  next =>
    intro field bytes
    rw [Cursor.byte_eq]
    rfl
  next =>
    intro field bytes
    rw [Cursor.word_eq]
    rfl
  next =>
    intro S supply start
    obtain ⟨result, after, sniffed, -⟩ := hello_settles supply start
    exact ⟨result, after, sniffed⟩

end Intake

end SniffingRelay.Tls
