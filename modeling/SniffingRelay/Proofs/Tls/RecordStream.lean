import SniffingRelay.Proofs.Stream.Supply
import SniffingRelay.Proofs.Tls.RecordFraming

set_option autoImplicit false

namespace SniffingRelay

structure Recording.Moved (source : Recording) (front rest : List UInt8) (next : Recording) : Prop where
  steady : next.Steady
  heard : next.heard.toList = source.heard.toList ++ front
  remaining : next.remaining = rest

theorem Recording.Moved.trans {source middle next : Recording} {front back rest rest' : List UInt8}
    (moved : source.Moved front rest middle) (later : middle.Moved back rest' next) :
    source.Moved (front ++ back) rest' next where
  steady := later.steady
  heard := by rw [later.heard, moved.heard, List.append_assoc]
  remaining := later.remaining

namespace Reader

variable {S R : Type} {reader : Reader S R} {Sound : S -> Prop} {state : S} {source : Recording}

theorem steady_run (lively : reader.Lively Sound) (sound : Sound state) (steady : source.Steady) :
    (reader.run state source).source.Steady := by
  fun_induction reader.run state source with
  | case1 state _ _ answer | case3 state _ _ answer =>
    exact (Recording.read_steady (lively.room_pos state sound) steady answer).1 ▸ steady
  | case2 state _ _ answer _ _ moved =>
    obtain ⟨rfl, -⟩ := Recording.read_steady (lively.room_pos state sound) steady answer
    exact absurd moved (Nat.lt_irrefl _)
  | case4 state _ _ _ _ answer =>
    exact (Recording.read_steady (lively.room_pos state sound) steady answer).2.1
  | case5 state _ _ _ _ answer _ _ fed ih =>
    obtain ⟨-, steady, -⟩ := Recording.read_steady (lively.room_pos state sound) steady answer
    exact ih (lively.feed sound fed) steady
  | case6 state _ _ _ answer _ ih =>
    exact ih sound (Recording.read_steady (lively.room_pos state sound) steady answer).2.1
  | case7 state _ _ _ answer =>
    exact (Recording.read_steady (lively.room_pos state sound) steady answer).2.1

theorem Exact.moved_run (exact : reader.Exact Sound) (sound : Sound state) (steady : source.Steady)
    {front rest : List UInt8} {result : R} (sent : source.remaining = front ++ rest)
    (concluded : reader.conclude state (front ++ rest) = (result, rest)) :
    (reader.run state source).result = result ∧
      source.Moved front rest (reader.run state source).source := by
  have ran := run_steady exact.toLively sound steady
  rw [sent, concluded, exact.spare_run source sound, List.nil_append, Prod.mk.injEq] at ran
  have whole := reader.whole_run state source
  rw [Recording.whole, Recording.whole, ran.2, sent, ← List.append_assoc] at whole
  exact ⟨ran.1, steady_run exact.toLively sound steady, List.append_cancel_right whole, ran.2⟩

end Reader

namespace Tls

namespace Record

def stream (content : UInt8) (records : List Record) : List UInt8 :=
  records.flatMap (written content)

def fragments (records : List Record) : List (Except HelloError (List UInt8)) :=
  records.map fun record => .ok record.fragment

def header (content : UInt8) (record : Record) : List UInt8 :=
  content :: record.major :: record.minor :: writeNat 2 record.fragment.length

theorem written_eq (content : UInt8) (record : Record) :
    record.written content = record.header content ++ record.fragment := rfl

theorem length_header (content : UInt8) (record : Record) :
    (record.header content).length = recordHeaderLength := by
  simp [header, recordHeaderLength]

-- A front of a record that is longer than the header goes on with a front of the fragment.
theorem exists_part_of_cut {content : UInt8} {record : Record} {cut : List UInt8}
    (front : cut <+: record.written content) (more : cut ≠ record.written content)
    (long : recordHeaderLength ≤ cut.length) :
    ∃ part, cut = record.header content ++ part ∧ part.length < record.fragment.length := by
  rw [written_eq] at front more
  rw [← length_header content record] at long
  obtain ⟨part, rfl⟩ := List.prefix_of_prefix_length_le (List.prefix_append ..) front long
  rw [List.prefix_append_right_inj] at front
  refine ⟨part, rfl, Nat.lt_of_le_of_ne front.length_le ?_⟩
  intro whole
  exact more (congrArg (record.header content ++ ·) (front.eq_of_length whole))

end Record

section

variable {wanted content : UInt8} {record : Record} {cut part : List UInt8}

theorem collects_recordHeader (wanted : UInt8) : (recordReader wanted).Collects recordHeaderLength
    PartialRecord.header (PartialRecord.ofHeader wanted) (fun fault => .error (.recordHeader fault)) where
  room _ := rfl
  push got byte _ := by
    split
    next short => exact PartialRecord.push_header_short byte short
    next => rfl
  finish _ _ := rfl
  resume _ := rfl

theorem collects_recordFragment (wanted : UInt8) (length : Nat) : (recordReader wanted).Collects length
    (fun got => .fragment length got.toArray) (fun bytes => .settled (.ok bytes))
    (fun fault => .error (.recordFragment length fault)) where
  room _ := rfl
  push got byte _ := by simp [recordReader, PartialRecord.push]
  finish _ _ := rfl
  resume _ := rfl

theorem feed_record_header (wanted content : UInt8) (record : Record) (rest : List UInt8) :
    (recordReader wanted).feed .start (record.header content ++ rest) =
      if content ≠ wanted then (.settled (.error (.contentType content wanted)), rest)
      else if record.fragment.length = 0 then (.settled (.ok []), rest)
      else (recordReader wanted).feed (.fragment record.fragment.length #[]) rest :=
  feed_header wanted content record.major record.minor record.fits rest

theorem conclude_record (wanted : UInt8) (record : Record) (rest : List UInt8) :
    (recordReader wanted).conclude .start (record.written wanted ++ rest) =
      (.ok record.fragment, rest) := by
  rw [Reader.conclude, feed_record]

theorem conclude_other (other : content ≠ wanted) (record : Record) (rest : List UInt8) :
    (recordReader wanted).conclude .start (record.header content ++ rest) =
      (.error (.contentType content wanted), rest) := by
  rw [Reader.conclude, feed_record_header, if_pos other]

theorem conclude_cut_header (wanted : UInt8) (short : cut.length < recordHeaderLength) :
    (recordReader wanted).conclude .start cut = (.error (.recordHeader .earlyEnd), []) := by
  by_cases none : cut = []
  next =>
    subst none
    rfl
  next =>
    have fed := @Reader.Collects.feed _ _ _ _ _ _ _ (collects_recordHeader wanted) [] cut none
      (by simpa using Nat.le_of_lt short)
    simp only [List.length_nil, Nat.zero_add, short, if_true, List.nil_append] at fed
    rw [Reader.conclude, PartialRecord.start, fed]
    rfl

theorem conclude_cut_fragment (wanted : UInt8) (short : part.length < record.fragment.length) :
    (recordReader wanted).conclude .start (record.header wanted ++ part) =
      (.error (.recordFragment record.fragment.length .earlyEnd), []) := by
  have filled : record.fragment.length ≠ 0 := Nat.ne_of_gt (Nat.zero_lt_of_lt short)
  rw [Reader.conclude, feed_record_header, if_neg (not_not_intro rfl), if_neg filled]
  by_cases none : part = []
  next =>
    subst none
    rfl
  next =>
    have fed := @Reader.Collects.feed _ _ _ _ _ _ _
      (collects_recordFragment wanted record.fragment.length) [] part none
      (by simpa using Nat.le_of_lt short)
    simp only [List.length_nil, Nat.zero_add, short, if_true, List.nil_append] at fed
    rw [fed]
    rfl

def takeRecords (wanted : UInt8) : Nat -> Recording -> List (Except HelloError (List UInt8)) × Recording
  | 0, source => ([], source)
  | count + 1, source =>
      let reading := (recordReader wanted).run .start source
      match reading.result with
      | .error error => ([.error error], reading.source)
      | .ok fragment =>
          let (later, last) := takeRecords wanted count reading.source
          (.ok fragment :: later, last)

theorem takeRecords_stream (wanted : UInt8) (records : List Record) {source : Recording}
    {rest : List UInt8} (steady : source.Steady)
    (sent : source.remaining = Record.stream wanted records ++ rest) :
    ∃ next, source.Moved (Record.stream wanted records) rest next ∧
      ∀ count, takeRecords wanted (records.length + count) source =
        (Record.fragments records ++ (takeRecords wanted count next).1,
          (takeRecords wanted count next).2) := by
  induction records generalizing source with
  | nil =>
    refine ⟨source, ⟨steady, (List.append_nil _).symm, sent⟩, ?_⟩
    intro count
    simp [Record.fragments]
  | cons record records ih =>
    rw [Record.stream, List.flatMap_cons, ← Record.stream, List.append_assoc] at sent
    obtain ⟨result, moved⟩ := (exact_recordReader wanted).moved_run PartialRecord.sound_start steady
      sent (conclude_record wanted record _)
    obtain ⟨next, later, went⟩ := ih moved.steady moved.remaining
    refine ⟨next, moved.trans later, ?_⟩
    intro count
    rw [List.length_cons, Nat.add_right_comm, takeRecords, result]
    dsimp only
    rw [went count]
    rfl

theorem takeRecords_until_error {records : List Record} {source : Recording} {front rest : List UInt8}
    {error : HelloError} (steady : source.Steady)
    (sent : source.remaining = Record.stream wanted records ++ (front ++ rest))
    (concluded : (recordReader wanted).conclude .start (front ++ rest) = (.error error, rest)) :
    ∃ next, takeRecords wanted (records.length + 1) source =
        (Record.fragments records ++ [.error error], next) ∧
      source.Moved (Record.stream wanted records ++ front) rest next := by
  obtain ⟨next, moved, went⟩ := takeRecords_stream wanted records steady sent
  obtain ⟨result, last⟩ := (exact_recordReader wanted).moved_run PartialRecord.sound_start
    moved.steady moved.remaining concluded
  refine ⟨_, ?_, moved.trans last⟩
  rw [went 1, takeRecords, result]

/-- However a stream is cut into reads, its records are taken one by one, and what follows them is
left. A record of another content type is refused after its header, with all that there is of its
fragment unread. Where the stream ends too early, a record is refused for its header or for its
fragment, whichever is cut short, and then for the length that the header announces. -/
theorem records_are_taken_one_by_one (wanted : UInt8) (records : List Record) (source : Recording)
    (steady : source.Steady) :
    (∀ rest, source.remaining = Record.stream wanted records ++ rest →
      ∃ next, takeRecords wanted records.length source = (Record.fragments records, next) ∧
        source.Moved (Record.stream wanted records) rest next) ∧
    (∀ content (record : Record) rest, content ≠ wanted →
      source.remaining =
        Record.stream wanted records ++ ((record.written content).take recordHeaderLength ++ rest) →
      ∃ next, takeRecords wanted (records.length + 1) source =
          (Record.fragments records ++ [.error (.contentType content wanted)], next) ∧
        source.Moved
          (Record.stream wanted records ++ (record.written content).take recordHeaderLength)
          rest next) ∧
    (∀ cut, cut.length < recordHeaderLength →
      source.remaining = Record.stream wanted records ++ cut →
      ∃ next, takeRecords wanted (records.length + 1) source =
          (Record.fragments records ++ [.error (.recordHeader .earlyEnd)], next) ∧
        source.Moved (Record.stream wanted records ++ cut) [] next) ∧
    ∀ (record : Record) cut, cut <+: record.written wanted → cut ≠ record.written wanted →
      recordHeaderLength ≤ cut.length →
      source.remaining = Record.stream wanted records ++ cut →
      ∃ next, takeRecords wanted (records.length + 1) source =
          (Record.fragments records ++ [.error (.recordFragment record.fragment.length .earlyEnd)],
            next) ∧
        source.Moved (Record.stream wanted records ++ cut) [] next := by
  refine ⟨?whole, ?other, ?header, ?fragment⟩
  case whole =>
    intro rest sent
    obtain ⟨next, moved, went⟩ := takeRecords_stream wanted records steady sent
    refine ⟨next, ?_, moved⟩
    simpa [takeRecords] using went 0
  case other =>
    intro content record rest other sent
    rw [Record.written_eq, List.take_left' (record.length_header content)] at sent ⊢
    exact takeRecords_until_error steady sent (conclude_other other record rest)
  case header =>
    intro cut short sent
    rw [← List.append_nil cut] at sent
    refine takeRecords_until_error steady sent ?_
    rw [List.append_nil, conclude_cut_header wanted short]
  case fragment =>
    intro record cut front more long sent
    obtain ⟨part, rfl, short⟩ := Record.exists_part_of_cut front more long
    rw [← List.append_nil (record.header wanted ++ part)] at sent
    refine takeRecords_until_error steady sent ?_
    rw [List.append_nil, conclude_cut_fragment wanted short]

end

-- The first fragment is empty, and a read ends between the bytes of a length.
def framedRecords : List Record := [⟨3, 1, [], by decide⟩, ⟨3, 3, [7, 8], by decide⟩]

def alertRecord : Record := ⟨3, 1, [2, 40], by decide⟩

def framedReads (rest : List UInt8) : Recording where
  ahead :=
    [.bytes [23, 3], .fault ⟨.interrupted, none⟩, .bytes [1, 0, 0, 23, 3, 3, 0],
      .bytes (2 :: 7 :: 8 :: rest)]

theorem steady_framedReads (rest : List UInt8) : (framedReads rest).Steady := by
  simp [Recording.Steady, framedReads, Arrival.IsSteady, Fault.isInterruption]

theorem framedReads_are_taken_one_by_one :
    (framedReads [21, 3, 1, 0, 2, 2, 40, 9]).Steady ∧
      (takeRecords 23 2 (framedReads [21, 3, 1, 0, 2, 2, 40, 9])).1 = [.ok [], .ok [7, 8]] ∧
      (takeRecords 23 3 (framedReads [21, 3, 1, 0, 2, 2, 40, 9])).1 =
        [.ok [], .ok [7, 8], .error (.contentType 21 23)] ∧
      (takeRecords 23 3 (framedReads [21, 3, 1, 0, 2, 2, 40, 9])).2.remaining = [2, 40, 9] ∧
      (takeRecords 23 3 (framedReads [23, 3, 1])).1 =
        [.ok [], .ok [7, 8], .error (.recordHeader .earlyEnd)] ∧
      (takeRecords 23 3 (framedReads [23, 3, 1, 0, 2, 2])).1 =
        [.ok [], .ok [7, 8], .error (.recordFragment 2 .earlyEnd)] := by
  have sent (rest : List UInt8) :
      (framedReads rest).remaining = Record.stream 23 framedRecords ++ rest := by
    simp [framedReads, framedRecords, Recording.remaining, Arrival.content, Record.stream,
      Record.written, writeVector, writeNat, Digits.ofNat]
  have taken (rest : List UInt8) :=
    records_are_taken_one_by_one 23 framedRecords (framedReads rest) (steady_framedReads rest)
  obtain ⟨whole, other, -, -⟩ := taken [21, 3, 1, 0, 2, 2, 40, 9]
  obtain ⟨-, -, header, -⟩ := taken [23, 3, 1]
  obtain ⟨-, -, -, fragment⟩ := taken [23, 3, 1, 0, 2, 2]
  obtain ⟨_, fragments, -⟩ := whole _ (sent _)
  obtain ⟨_, refused, moved⟩ := other 21 alertRecord [2, 40, 9] (by decide) (sent _)
  obtain ⟨_, headless, -⟩ := header _ (by decide) (sent _)
  obtain ⟨_, short, -⟩ := fragment alertRecord _ (by decide) (by decide) (by decide) (sent _)
  exact ⟨steady_framedReads _, congrArg Prod.fst fragments, congrArg Prod.fst refused,
    (congrArg (fun taken => taken.2.remaining) refused).trans moved.remaining,
    congrArg Prod.fst headless, congrArg Prod.fst short⟩

end Tls

end SniffingRelay
