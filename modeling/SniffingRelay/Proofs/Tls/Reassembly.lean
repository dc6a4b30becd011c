import Mathlib.Data.Option.Basic
import SniffingRelay.Proofs.Tls.RecordFraming
import SniffingRelay.Tls.Handshake

set_option autoImplicit false

namespace SniffingRelay.Tls

namespace Handshake

def announced (message : List UInt8) : Nat := Hello.bigEndian ((message.drop 1).take 3)

def outcome : List UInt8 -> Except HelloError Hello
  | [] => .error (.recordHeader .earlyEnd)
  | kind :: rest =>
      let message := kind :: rest
      if kind ≠ 1 then .error (.handshakeType kind)
      else if message.length < 4 then .error (.recordHeader .earlyEnd)
      else if messageLimit < announced message then
        .error (.messageTooLarge (announced message) messageLimit)
      else if message.length < 4 + announced message then .error (.recordHeader .earlyEnd)
      else Hello.parse ((message.drop 4).take (announced message))

def decisive : List UInt8 -> Nat
  | [] => 1
  | kind :: rest =>
      let message := kind :: rest
      if kind ≠ 1 then 1
      else if message.length < 4 ∨ messageLimit < announced message then 4
      else 4 + announced message

theorem outcome_of_length_lt_decisive {message : List UInt8}
    (short : message.length < decisive message) :
    outcome message = .error (.recordHeader .earlyEnd) := by
  cases message with
  | nil => rfl
  | cons kind rest =>
    simp only [decisive] at short
    simp only [outcome]
    split at short
    next => simp at short
    next known =>
      rw [if_neg known]
      split at short
      next => rw [if_pos short]
      next whole =>
        rw [not_or] at whole
        rw [if_neg whole.1, if_neg whole.2, if_pos short]

theorem decisive_pos (message : List UInt8) : 0 < decisive message := by
  unfold decisive
  grind

theorem four_le_decisive (rest : List UInt8) : 4 ≤ decisive (1 :: rest) := by
  simp only [decisive, ne_eq, not_true_eq_false, if_false]
  split <;> omega

theorem verdict_append {front : List UInt8} (arrived : front ≠ []) (back : List UInt8) :
    verdict front.toArray =
      if decisive (front ++ back) ≤ front.length then some (outcome (front ++ back)) else none := by
  obtain ⟨kind, rest, rfl⟩ := List.exists_cons_of_ne_nil arrived
  by_cases known : kind = 1
  next =>
    subst known
    have least := four_le_decisive (rest ++ back)
    match rest with
    | [] | [_] | [_, _] =>
      rw [List.cons_append, if_neg (by simp at least ⊢; omega)]
      simp [verdict]
    | high :: middle :: low :: body =>
      have length : announced (1 :: high :: middle :: low :: body ++ back) =
        Hello.bigEndian [high, middle, low] := rfl
      have long : ¬(1 :: high :: middle :: low :: (body ++ back)).length < 4 :=
        Nat.not_lt.mpr (Nat.le_add_left 4 _)
      simp only [List.cons_append] at length
      simp only [List.cons_append, decisive, outcome, length, long, verdict]
      by_cases large : messageLimit < Hello.bigEndian [high, middle, low]
      next => simp [large]
      next =>
        by_cases complete : Hello.bigEndian [high, middle, low] ≤ body.length
        next =>
          have reach : ¬body.length + back.length < Hello.bigEndian [high, middle, low] := by omega
          simp [large, complete, Nat.add_comm 4, guard, reach, List.take_append_of_le_length complete]
        next => simp [large, complete, Nat.add_comm 4, guard]
  next => simp [verdict, decisive, outcome, known]

theorem feed_eq (state : Handshake) (bytes : List UInt8) :
    handshakeReader.feed state bytes =
      match (recordReader handshakeContent).feed state.record bytes with
      | (.more record, rest) => (.more { state with record }, rest)
      | (.settled (.error error), rest) => (.settled (.error error), rest)
      | (.settled (.ok fragment), rest) =>
          if fragment = [] then (.settled (.error .emptyRecord), rest)
          else
            match verdict (state.message ++ fragment) with
            | some result => (.settled result, rest)
            | none => handshakeReader.feed { message := state.message ++ fragment } rest := by
  induction bytes generalizing state with
  | nil => rfl
  | cons byte bytes ih =>
    rw [Reader.feed, Reader.feed]
    have pushed : handshakeReader.push state byte = state.push byte := rfl
    have record_pushed : (recordReader handshakeContent).push state.record byte =
      state.record.push handshakeContent byte := rfl
    rw [pushed, record_pushed, push]
    cases state.record.push handshakeContent byte with
    | more record => exact ih { state with record }
    | settled result =>
      cases result with
      | error error => rfl
      | ok fragment =>
        by_cases empty : fragment = []
        next => simp [empty]
        next =>
          simp only [List.isEmpty_iff, empty, if_false]
          cases verdict (state.message ++ fragment) <;> rfl

theorem exact_handshakeReader : handshakeReader.Exact fun state => state.record.Sound where
  room_pos state := (exact_recordReader handshakeContent).room_pos state.record
  push state byte next sound pushed := by
    have record_push := (exact_recordReader handshakeContent).push state.record byte
    change push state byte = _ at pushed
    simp only [push] at pushed
    split at pushed
    next record record_pushed => exact Progress.more.inj pushed ▸ record_push record sound record_pushed
    next => simp at pushed
    next =>
      split at pushed
      next => simp at pushed
      next =>
        split at pushed
        next => simp at pushed
        next => exact Progress.more.inj pushed ▸ PartialRecord.sound_start
  narrow state byte sound wide := by
    obtain ⟨record, pushed, room⟩ :=
      (exact_recordReader handshakeContent).narrow state.record byte sound wide
    refine ⟨{ state with record }, ?_, room⟩
    change state.record.push handshakeContent byte = _ at pushed
    change push state byte = _
    rw [push, pushed]
  final _ := rfl

end Handshake

def Record.carried (records : List Record) : List UInt8 := records.flatMap Record.fragment

def Record.wire (records : List Record) : List UInt8 :=
  records.flatMap (Record.written handshakeContent)

/-- Records up to and including the first with which they carry `count` bytes, if there is one. -/
structure Record.Reach (count : Nat) (taken left : List Record) : Prop where
  short : ∀ fewer, fewer <+: taken → fewer ≠ taken → (carried fewer).length < count
  enough : count ≤ (carried taken).length ∨ left = []

theorem Record.Reach.nil {count : Nat} {left : List Record} (enough : count = 0 ∨ left = []) :
    Reach count [] left where
  short _ front different := absurd (List.prefix_nil.mp front) different
  enough := enough.imp Nat.le_of_eq id

theorem Record.Reach.cons {count : Nat} {record : Record} {taken left : List Record}
    (positive : 0 < count) (reach : Reach (count - record.fragment.length) taken left) :
    Reach count (record :: taken) left where
  short fewer front different := by
    cases fewer with
    | nil => exact positive
    | cons first fewer =>
      obtain ⟨rfl, later⟩ := List.cons_prefix_cons.mp front
      have bound := reach.short fewer later fun same => different (same ▸ rfl)
      simp only [carried, List.flatMap_cons, List.length_append] at bound ⊢
      omega
  enough := by
    refine reach.enough.imp (fun enough => ?_) id
    simp only [carried, List.flatMap_cons, List.length_append] at enough ⊢
    omega

namespace Handshake

theorem feed_written (message : Array UInt8) {record : Record} (filled : record.fragment ≠ [])
    (rest : List UInt8) :
    handshakeReader.feed { message } (record.written handshakeContent ++ rest) =
      match verdict (message ++ record.fragment) with
      | some result => (.settled result, rest)
      | none => handshakeReader.feed { message := message ++ record.fragment } rest := by
  rw [feed_eq]
  dsimp only
  rw [feed_record]
  dsimp only
  rw [if_neg filled]

theorem conclude_records (message : Array UInt8) (records : List Record)
    (filled : ∀ record ∈ records, record.fragment ≠ [])
    (pending : message.size < decisive (message.toList ++ Record.carried records)) :
    ∃ taken left, records = taken ++ left ∧
      Record.Reach (decisive (message.toList ++ Record.carried records) - message.size) taken left ∧
        handshakeReader.conclude { message } (Record.wire records) =
          (outcome (message.toList ++ Record.carried records), Record.wire left) := by
  -- The message is what was carried so far, and the whole of it decides how much is enough.
  induction records generalizing message with
  | nil =>
    simp only [Record.carried, List.flatMap_nil, List.append_nil] at pending ⊢
    refine ⟨[], [], rfl, .nil (.inr rfl), ?_⟩
    rw [outcome_of_length_lt_decisive pending]
    rfl
  | cons record records ih =>
    have some_carried : record.fragment ≠ [] := filled record (by simp)
    have later_filled : ∀ later ∈ records, later.fragment ≠ [] :=
      fun later found => filled later (by simp [found])
    have accumulated : (message ++ record.fragment).toList = message.toList ++ record.fragment :=
      Array.toList_appendList
    have size : (message ++ record.fragment).size = message.size + record.fragment.length := by
      rw [← Array.length_toList, accumulated, List.length_append, Array.length_toList]
    have whole : message.toList ++ Record.carried (record :: records) =
        message.toList ++ record.fragment ++ Record.carried records := by
      rw [Record.carried, List.flatMap_cons, List.append_assoc, ← Record.carried]
    have some_arrived : message.toList ++ record.fragment ≠ [] := by simp [some_carried]
    have decided := verdict_append some_arrived (Record.carried records)
    rw [← accumulated, Array.length_toList, Array.toArray_toList] at decided
    rw [whole, ← accumulated] at pending ⊢
    rw [Reader.conclude, Record.wire, List.flatMap_cons, feed_written message some_carried, decided,
      ← Record.wire]
    by_cases enough : decisive ((message ++ record.fragment).toList ++ Record.carried records) ≤
      (message ++ record.fragment).size
    next =>
      rw [if_pos enough]
      have reach : Record.Reach
          (decisive ((message ++ record.fragment).toList ++ Record.carried records) - message.size)
          [record] records :=
        .cons (by omega) (.nil (.inl (by omega)))
      exact ⟨[record], records, rfl, reach, rfl⟩
    next =>
      rw [if_neg enough]
      obtain ⟨taken, left, split, reach, concluded⟩ :=
        ih (message ++ record.fragment) later_filled (Nat.not_le.mp enough)
      rw [size, Nat.sub_add_eq] at reach
      exact ⟨record :: taken, left, by rw [split, List.cons_append], reach.cons (by omega), concluded⟩

/-- The result is the same for all ways to cut a message into records and reads. The reader has
then taken whole records, up to the first with which it can tell what the message is. -/
theorem run_depends_on_message_alone (message : List UInt8) (records : List Record)
    (source : Recording) (carries : Record.carried records = message)
    (filled : ∀ record ∈ records, record.fragment ≠ []) (fresh : source.heard = {})
    (steady : source.Steady) (sent : source.remaining = Record.wire records) :
    (handshakeReader.run {} source).result = outcome message ∧
      (handshakeReader.run {} source).spare = [] ∧
      ∃ taken left, records = taken ++ left ∧ Record.Reach (decisive message) taken left ∧
        (handshakeReader.run {} source).source.heard.toList = Record.wire taken ∧
        (handshakeReader.run {} source).source.remaining = Record.wire left := by
  subst carries
  have sound : ({} : Handshake).record.Sound := PartialRecord.sound_start
  have ran := Reader.run_steady exact_handshakeReader.toLively sound steady
  have spare := exact_handshakeReader.spare_run source sound
  have conserved := handshakeReader.whole_run {} source
  obtain ⟨taken, left, split, reach, concluded⟩ :=
    conclude_records #[] records filled (decisive_pos _)
  rw [sent, concluded, spare] at ran
  obtain ⟨result, remaining⟩ := Prod.mk.inj ran
  rw [List.nil_append] at remaining
  refine ⟨result, spare, taken, left, split, reach, ?_, remaining⟩
  have wire : Record.wire records = Record.wire taken ++ Record.wire left := by
    rw [split, Record.wire, List.flatMap_append]
    rfl
  simp only [Recording.whole, remaining, fresh, sent, wire] at conserved
  exact List.append_cancel_right conserved

-- A header, the length of the message and a record are each cut, and a record follows the message.
def cutRecords : List Record :=
  [⟨3, 1, [1, 0], by decide⟩, ⟨3, 3, [0, 1, 7, 9], by decide⟩, ⟨0, 0, [5], by decide⟩]

def cutReads : Recording where
  ahead :=
    [.bytes [22, 3], .fault ⟨.interrupted, none⟩, .bytes [1, 0, 2, 1], .bytes [0, 22, 3, 3, 0, 4, 0],
      .bytes [1, 7, 9, 22], .bytes [0, 0, 0, 1, 5]]

theorem run_cutReads :
    cutReads.Steady ∧ cutReads.remaining = Record.wire cutRecords ∧
      (handshakeReader.run {} cutReads).result = .error (.truncated .version 1 0) ∧
        ∃ taken left, cutRecords = taken ++ left ∧ Record.Reach 5 taken left ∧
          (handshakeReader.run {} cutReads).source.heard.toList = Record.wire taken := by
  have steady : cutReads.Steady := by
    simp [Recording.Steady, cutReads, Arrival.IsSteady, Fault.isInterruption]
  obtain ⟨result, -, taken, left, split, reach, heard, -⟩ :=
    run_depends_on_message_alone [1, 0, 0, 1, 7, 9, 5] cutRecords cutReads rfl (by decide) rfl steady
      (by decide)
  have read : outcome [1, 0, 0, 1, 7, 9, 5] = .error (.truncated .version 1 0) := by cbv
  have enough : decisive [1, 0, 0, 1, 7, 9, 5] = 5 := by cbv
  rw [enough] at reach
  exact ⟨steady, by decide, result.trans read, taken, left, split, reach, heard⟩

end Handshake

end SniffingRelay.Tls
