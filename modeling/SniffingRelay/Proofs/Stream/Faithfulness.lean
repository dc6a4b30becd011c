import SniffingRelay.Http.HostHeader
import SniffingRelay.Proofs.Stream.ExactReads
import SniffingRelay.Tls.Handshake

set_option autoImplicit false

namespace SniffingRelay

structure ReadBuffer where
  filled : List UInt8
  capacity : Nat
  deriving DecidableEq, Repr

namespace ReadBuffer

def room (buffer : ReadBuffer) : Nat := buffer.capacity - buffer.filled.length

def put (buffer : ReadBuffer) (bytes : List UInt8) : ReadBuffer :=
  { buffer with filled := buffer.filled ++ bytes }

@[simp] theorem put_nil (buffer : ReadBuffer) : buffer.put [] = buffer := by simp [put]

@[simp] theorem put_put (buffer : ReadBuffer) (first second : List UInt8) :
    (buffer.put first).put second = buffer.put (first ++ second) := by
  simp [put]

theorem room_put (buffer : ReadBuffer) (bytes : List UInt8) :
    (buffer.put bytes).room = buffer.room - bytes.length := by
  rw [room, room, put, List.length_append, Nat.sub_add_eq]

end ReadBuffer

-- A source on its own, which puts into a buffer what there is room for.
def Arrival.poll : List Arrival -> ReadBuffer -> Except Fault ReadBuffer × List Arrival
  | [], buffer => (.ok buffer, [])
  | .fault cause :: later, _ => (.error cause, later)
  | .bytes piece :: later, buffer =>
      (.ok (buffer.put (piece.take buffer.room)),
        if piece.length ≤ buffer.room then later else .bytes (piece.drop buffer.room) :: later)

structure Recorder where
  inner : List Arrival
  log : List UInt8
  deriving DecidableEq, Repr

namespace Recorder

-- What the buffer held before is not for the record.
def poll (recorder : Recorder) (buffer : ReadBuffer) : Except Fault ReadBuffer × Recorder :=
  match Arrival.poll recorder.inner buffer with
  | (.ok after, inner) =>
      (.ok after, ⟨inner, recorder.log ++ after.filled.drop buffer.filled.length⟩)
  | (.error fault, inner) => (.error fault, { recorder with inner })

end Recorder

def Recording.recorder (source : Recording) : Recorder := ⟨source.ahead, source.heard.toList⟩

namespace Recorder

theorem poll_recorder (source : Recording) (buffer : ReadBuffer) :
    source.recorder.poll buffer =
      ((source.read buffer.room).1.map buffer.put, (source.read buffer.room).2.recorder) := by
  obtain ⟨ahead, heard⟩ := source
  match ahead with
  | [] => simp [poll, Arrival.poll, Recording.recorder, Recording.read, ReadBuffer.put, Except.map]
  | .fault _ :: _ => rfl
  | .bytes piece :: later =>
    simp only [poll, Arrival.poll, Recording.recorder, Recording.read, ReadBuffer.put,
      List.splitAt_eq, List.isEmpty_iff, List.drop_eq_nil_iff, Except.map, List.drop_left,
      Transcript.toList_append]

theorem recorder_surjective : Function.Surjective Recording.recorder := by
  rintro ⟨inner, log⟩
  exact ⟨⟨inner, ⟨[log]⟩⟩, by simp [Recording.recorder, Transcript.toList]⟩

def weight (recorder : Recorder) : Nat := ({ ahead := recorder.inner } : Recording).weight

variable {recorder next : Recorder} {buffer after : ReadBuffer} {fault : Fault}

theorem weight_poll_fault (answer : recorder.poll buffer = (.error fault, next)) :
    next.weight < recorder.weight := by
  obtain ⟨source, rfl⟩ := recorder_surjective recorder
  rw [poll_recorder] at answer
  cases read : source.read buffer.room with
  | mk result rest =>
    rw [read] at answer
    obtain ⟨failed, rfl⟩ := Prod.mk.inj answer
    cases result with
    | ok taken => cases failed
    | error cause =>
      change rest.weight < source.weight
      exact Recording.weight_read_fault read

theorem weight_poll_bytes (answer : recorder.poll buffer = (.ok after, next))
    (moved : after.room ≠ buffer.room) : next.weight < recorder.weight := by
  obtain ⟨source, rfl⟩ := recorder_surjective recorder
  rw [poll_recorder] at answer
  cases read : source.read buffer.room with
  | mk result rest =>
    rw [read] at answer
    obtain ⟨taken, rfl⟩ := Prod.mk.inj answer
    match result with
    | .ok [] =>
      cases taken
      rw [ReadBuffer.room_put] at moved
      exact absurd rfl moved
    | .ok (first :: more) =>
      change rest.weight < source.weight
      exact Recording.weight_read_bytes read
    | .error cause => cases taken

def fill (recorder : Recorder) (buffer : ReadBuffer) : Except Fault Unit × ReadBuffer × Recorder :=
  if buffer.room = 0 then (.ok (), buffer, recorder)
  else
    match _answer : recorder.poll buffer with
    | (.ok after, next) =>
        if _moved : after.room = buffer.room then (.error .earlyEnd, after, next)
        else fill next after
    | (.error fault, next) =>
        if fault.isInterruption then fill next buffer else (.error fault, buffer, next)
termination_by recorder.weight
decreasing_by
  · exact weight_poll_bytes _answer _moved
  · exact weight_poll_fault _answer

-- One turn of filling, said about a read.
theorem fill_eq (source : Recording) (needed : buffer.room ≠ 0) : source.recorder.fill buffer =
    match source.read buffer.room with
    | (.ok [], rest) => (.error .earlyEnd, buffer, rest.recorder)
    | (.ok (first :: more), rest) => rest.recorder.fill (buffer.put (first :: more))
    | (.error fault, rest) =>
        if fault.isInterruption then rest.recorder.fill buffer
        else (.error fault, buffer, rest.recorder) := by
  have polled := poll_recorder source buffer
  rw [fill, if_neg needed]
  split
  next after next answer =>
    rw [polled] at answer
    match source.read buffer.room, answer with
    | (.ok [], rest), rfl => simp [ReadBuffer.put]
    | (.ok (first :: more), rest), rfl =>
      have moved : (buffer.put (first :: more)).room ≠ buffer.room := by
        rw [ReadBuffer.room_put, List.length_cons]
        omega
      rw [dif_neg moved]
  next fault next answer =>
    rw [polled] at answer
    match source.read buffer.room, answer with
    | (.error cause, rest), rfl => rfl

theorem fill_recorder (source : Recording) (buffer : ReadBuffer) :
    source.recorder.fill buffer =
      ((source.readExactly buffer.room).1.map fun _ => (),
        buffer.put (source.ready.take buffer.room),
        (source.readExactly buffer.room).2.recorder) := by
  generalize count_eq : buffer.room = count
  fun_induction Recording.readExactly count source generalizing buffer with
  | case1 source =>
    rw [fill, if_pos count_eq, List.take_zero, ReadBuffer.put_nil]
    rfl
  | case2 count source needed next answer =>
    obtain ⟨exhausted, -⟩ := Recording.untilStop_of_read_nil (Nat.pos_of_ne_zero needed) answer
    subst count_eq
    rw [fill_eq _ needed, answer, exhausted, List.take_nil, ReadBuffer.put_nil]
    rfl
  | case3 count source needed first more next answer rest last continued ih
  | case4 count source needed first more next answer fault last continued ih =>
    obtain ⟨taken, -⟩ := Recording.take_ready_of_read answer
    subst count_eq
    have filled := ih (buffer.put (first :: more)) (buffer.room_put _)
    rw [continued, ReadBuffer.put_put, ← taken] at filled
    rw [fill_eq _ needed, answer]
    exact filled
  | case5 count source needed fault next answer interruption ih =>
    have passed := Recording.untilStop_of_read_error answer
    rw [if_pos interruption, Prod.mk.injEq] at passed
    subst count_eq
    rw [fill_eq _ needed, answer, passed.1]
    exact (if_pos interruption).trans (ih buffer rfl)
  | case6 count source needed fault next answer reported =>
    have stopped := Recording.untilStop_of_read_error answer
    rw [if_neg reported, Prod.mk.injEq] at stopped
    subst count_eq
    rw [fill_eq _ needed, answer, stopped.1, List.take_nil, ReadBuffer.put_nil]
    exact if_neg reported

end Recorder

inductive Use where
  | once (room : Nat)
  | exactly (count : Nat)
  | record (content : UInt8)
  | hello
  | head (capacity : Nat)
  deriving DecidableEq, Repr

namespace Recording

variable {source : Recording}

def after (source : Recording) : Use -> Recording
  | .once room => (source.read room).2
  | .exactly count => (source.readExactly count).2
  | .record content => ((Tls.recordReader content).run .start source).source
  | .hello => (Tls.handshakeReader.run {} source).source
  | .head capacity => ((Http.headReader capacity).run {} source).source

def afterAll (source : Recording) (uses : List Use) : Recording := uses.foldl after source

theorem unread_eq_length (source : Recording) : source.unread = source.remaining.length := by
  rw [unread, remaining]
  induction source.ahead with
  | nil => rfl
  | cons arrival later ih =>
    rw [List.foldr_cons, ih, List.flatMap_cons, List.length_append]
    cases arrival <;> rfl

theorem whole_readExactly (count : Nat) (source : Recording) :
    (source.readExactly count).2.whole = source.whole := by
  fun_induction readExactly count source with
  | case1 => rfl
  | case2 _ _ _ _ answer => exact whole_of_read answer
  | case3 _ _ _ _ _ _ answer _ _ continued ih
  | case4 _ _ _ _ _ _ answer _ _ continued ih =>
    rw [continued] at ih
    exact ih.trans (whole_of_read answer)
  | case5 _ _ _ _ _ answer _ ih => exact ih.trans (whole_of_read answer)
  | case6 _ _ _ _ _ answer => exact whole_of_read answer

theorem whole_after (use : Use) : (source.after use).whole = source.whole := by
  cases use with
  | once room => exact whole_read room source
  | exactly count => exact whole_readExactly count source
  | record content => exact Reader.whole_run _ source
  | hello => exact Reader.whole_run _ source
  | head capacity => exact Reader.whole_run _ source

theorem heard_prefix_after (use : Use) :
    source.heard.toList <+: (source.after use).heard.toList := by
  -- What a reader uses and what it leaves over is all appended.
  have appended {S R : Type} (reader : Reader S R) (state : S) :
      source.heard.toList <+: (reader.run state source).source.heard.toList := by
    obtain ⟨used, heard⟩ := reader.exists_heard_run state source
    rw [heard, List.append_assoc]
    exact List.prefix_append _ _
  cases use with
  | once room => exact ⟨_, (heard_read rfl).symm⟩
  | exactly count => exact ⟨_, (readExactly_eq count source).2.symm⟩
  | record content => exact appended _ _
  | hello => exact appended _ _
  | head capacity => exact appended _ _

theorem whole_afterAll (uses : List Use) : (source.afterAll uses).whole = source.whole := by
  induction uses generalizing source with
  | nil => rfl
  | cons use uses ih => exact ih.trans (whole_after use)

theorem heard_prefix_afterAll (uses : List Use) :
    source.heard.toList <+: (source.afterAll uses).heard.toList := by
  induction uses generalizing source with
  | nil => exact List.prefix_refl _
  | cons use uses ih => exact (heard_prefix_after use).trans ih

end Recording

inductive Filling where
  | poll (buffer : ReadBuffer)
  | fill (buffer : ReadBuffer)
  deriving DecidableEq, Repr

def Filling.use : Filling -> Use
  | .poll buffer => .once buffer.room
  | .fill buffer => .exactly buffer.room

def Recorder.after (recorder : Recorder) : Filling -> Recorder
  | .poll buffer => (recorder.poll buffer).2
  | .fill buffer => (recorder.fill buffer).2.2

def Recorder.afterAll (recorder : Recorder) (fillings : List Filling) : Recorder :=
  fillings.foldl after recorder

theorem Recorder.after_recorder (source : Recording) (filling : Filling) :
    source.recorder.after filling = (source.after filling.use).recorder := by
  cases filling with
  | poll buffer => exact congrArg Prod.snd (poll_recorder source buffer)
  | fill buffer => exact congrArg (·.2.2) (fill_recorder source buffer)

theorem Recorder.afterAll_recorder (source : Recording) (fillings : List Filling) :
    source.recorder.afterAll fillings = (source.afterAll (fillings.map Filling.use)).recorder := by
  induction fillings generalizing source with
  | nil => rfl
  | cons filling fillings ih =>
    change (source.recorder.after filling).afterAll fillings = _
    rw [after_recorder]
    exact ih (source.after filling.use)

namespace Recording

/-- Whatever was done with a stream, the record is the front of its bytes that is no longer unread,
and whatever is done next only appends to it. A read appends what it gives, and an exact read what
was ready, also if that is too little. Buffers that hold something already get the same bytes after
it, and the record gets no others. -/
theorem record_is_faithful (script : List Arrival) (uses more : List Use) :
    let now := ({ ahead := script } : Recording).afterAll uses
    let sent := script.flatMap Arrival.content
    now.heard.toList ++ now.remaining = sent ∧
    now.unread ≤ sent.length ∧
    now.heard.toList = sent.take (sent.length - now.unread) ∧
    now.heard.toList <+: (now.afterAll more).heard.toList ∧
    (∀ room, (now.after (.once room)).heard.toList =
      now.heard.toList ++ (now.read room).1.toOption.getD []) ∧
    (∀ count, (now.readExactly count).1 =
        (if count ≤ now.ready.length then .ok (now.ready.take count) else .error now.stop) ∧
      (now.after (.exactly count)).heard.toList = now.heard.toList ++ now.ready.take count) ∧
    (∀ buffer : ReadBuffer,
      now.recorder.poll buffer =
        ((now.read buffer.room).1.map buffer.put, (now.after (.once buffer.room)).recorder) ∧
      now.recorder.fill buffer =
        ((now.readExactly buffer.room).1.map fun _ => (), buffer.put (now.ready.take buffer.room),
          (now.after (.exactly buffer.room)).recorder)) ∧
    ∀ fillings : List Filling, now.recorder.afterAll fillings =
      (now.afterAll (fillings.map Filling.use)).recorder := by
  intro now sent
  have whole : now.heard.toList ++ now.remaining = sent := whole_afterAll uses
  have unread := unread_eq_length now
  have length := congrArg List.length whole
  rw [List.length_append] at length
  refine ⟨whole, ?_, ?_, heard_prefix_afterAll more, fun room => heard_read rfl,
    fun count => readExactly_eq count now,
    fun buffer => ⟨Recorder.poll_recorder now buffer, Recorder.fill_recorder now buffer⟩,
    Recorder.afterAll_recorder now⟩
  next => omega
  next =>
    rw [← whole]
    have taken :
        (now.heard.toList ++ now.remaining).length - now.unread = now.heard.toList.length := by
      rw [List.length_append, unread, Nat.add_sub_cancel]
    rw [taken, List.take_left]

end Recording

end SniffingRelay
