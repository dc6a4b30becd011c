import SniffingRelay.Proofs.Session.Idleness

set_option autoImplicit false

namespace SniffingRelay

def Summary.bytesTo (summary : Summary) : Side -> Nat
  | .client => summary.bytesFromBackend
  | .backend => summary.bytesToBackend

namespace Session

def replayedTo (events : List Event) : Side -> List UInt8
  | .client => []
  | .backend => sniffed events

section

variable {context : Context} {session last next between : Session} {event : Event}
  {events early : List Event} {now : Nat}

theorem written_append (began : run context session early = some between) (side : Side)
    (late : List Event) : written context side session (early ++ late) =
      written context side session early ++ written context side between late := by
  induction early generalizing session with
  | nil => exact Option.some.inj began ▸ rfl
  | cons event early ih =>
    obtain ⟨next, stepped, began⟩ := Option.bind_eq_some_iff.mp began
    rw [List.cons_append, written, written, stepped]
    simp [ih began]

theorem voice?_of_dismisses {failure : Failure} (dismisses : Dismisses context failure session) :
    session.voice? = some .relay := by
  unfold Session.voice?
  rw [dismisses]

-- A backend speaks from the moment on when it has taken all that was sniffed.
theorem Transition.splices (stepped : Transition context session event next)
    (before : session.voice? ≠ some .backend) (after : next.voice? = some .backend) :
    ∃ (answered : Session) (replaying : Replaying), next = answered.splice context replaying := by
  have unsettled (either : next.voice? = none ∨ ∃ failure, Dismisses context failure next) :
      False := by
    rcases either with silent | ⟨failure, dismisses⟩
    next =>
      rw [silent] at after
      cases after
    next =>
      rw [voice?_of_dismisses dismisses] at after
      cases after
  cases stepped with
  | replayed => exact ⟨_, _, rfl⟩
  | sniffed | clientFailed | clientEnded =>
    exact (unsettled (unsettled_or_dismisses_route _ _)).elim
  | resolved | refused => exact (unsettled (unsettled_or_dismisses_tryNext _ _ _ _ _)).elim
  | moved => exact absurd rfl before
  | @elapsed clock milliseconds phase ledger =>
    cases spoken : Session.voice? ⟨clock + milliseconds, phase, ledger⟩ with
    | none => exact (unsettled (unsettled_or_dismisses_ring spoken)).elim
    | some voice =>
      rw [voice?_ring spoken] at after
      exact absurd (spoken.trans after) before
  | read | interrupted | unresolved | connected | replaying | replayFailed | rejecting | rejected
    | rejectionFlushed | rejectionShut | rejectionFailed => cases after

theorem exists_splice (ran : run context session events = some last)
    (before : session.voice? ≠ some .backend) (after : last.voice? = some .backend) :
    ∃ early late, ∃ (answered : Session) (replaying : Replaying), events = early ++ late ∧
      run context session early = some (answered.splice context replaying) ∧
        run context (answered.splice context replaying) late = some last := by
  induction events generalizing session with
  | nil => exact absurd (Option.some.inj ran ▸ after) before
  | cons event events ih =>
    obtain ⟨next, stepped, ran⟩ := Option.bind_eq_some_iff.mp ran
    by_cases spoken : next.voice? = some .backend
    next =>
      obtain ⟨answered, replaying, rfl⟩ := (transition_of_step stepped).splices before spoken
      exact ⟨[event], events, answered, replaying, rfl, by simp [run, stepped], ran⟩
    next =>
      obtain ⟨early, late, answered, replaying, rfl, began, ended⟩ := ih ran spoken
      exact ⟨event :: early, late, answered, replaying, rfl, by simp [run, stepped, began], ended⟩

theorem written_at_splice {replaying : Replaying}
    (began : run context (start context now) early = some (session.splice context replaying)) :
    isConnected early = true ∧ session.ledger.backend.told.size = (sniffed early).length ∧
      ∀ side, written context side (start context now) early = replayedTo early side := by
  have flow : Splices early session.ledger _ := flow_run began
  have heard := heard_run began .client
  have replayed : session.ledger.backend.told.size = (sniffed early).length := flow.replayed
  refine ⟨flow.connected, replayed, ?_⟩
  intro side
  rw [written_eq_told began]
  cases side with
  | client =>
    cases flow.conveys .backend with
    | reading _ counted => exact List.length_eq_zero_iff.mp counted.symm
  | backend =>
    have front := flow.sniffed_front heard
    have size : (session.ledger.backend.told.toList).length = (sniffed early).length := by
      rw [← replayed, Transcript.size_eq_length]
    exact (front.eq_of_length size.symm).symm

theorem exists_half_of_splice {replaying : Replaying} {late : List Event} {summary : Summary}
    (began : run context (start context now) early = some (session.splice context replaying))
    (ran : run context (session.splice context replaying) late = some last)
    (succeeded : last.result? = some (.ok summary)) (side : Side) :
    ∃ half, Half.run {} (moves side.other late) = some half ∧
      written context side (session.splice context replaying) late =
        Half.writes {} (moves side.other late) ∧
      summary.bytesTo side = (replayedTo early side).length + half.moved := by
  obtain ⟨-, replayed, -⟩ := written_at_splice began
  obtain ⟨splice, begun, new, -, size⟩ := splice_eq context session replaying
  rw [begun] at ran ⊢
  obtain ⟨next, continues, stands, each⟩ := halves_run (not_isDone_of_new new) ran
  have own := each side.other
  rw [new, Side.other_other] at own
  refine ⟨next.half side.other, own.1, own.2, ?_⟩
  obtain ⟨clock, phase, ledger⟩ := last
  cases stands with
  | going => cases succeeded
  | done =>
    cases succeeded
    cases side with
    | client => exact (Nat.zero_add _).symm
    | backend =>
      have before : next.replayed = (sniffed early).length :=
        continues.replayed.trans (size.trans replayed)
      exact congrArg (· + next.up.moved) before

theorem sniffed_of_splice {late : List Event} (connected : isConnected early = true) (side : Side) :
    replayedTo (early ++ late) side = replayedTo early side := by
  cases side with
  | client => rfl
  | backend => exact sniffed_append_of_connected connected late

/-- What a summary counts for a side is what the side was sent of the sniffed bytes, and the chunks
that it took as a whole. It may have taken some of one chunk more, but not if it was shut and no
write failed. -/
theorem summaries_count_whole_chunks {summary : Summary}
    (ran : run context (start context now) events = some last)
    (succeeded : last.result? = some (.ok summary)) :
    ∃ early late, ∃ (answered : Session) (replaying : Replaying), events = early ++ late ∧
      run context (start context now) early = some (answered.splice context replaying) ∧
      ∀ side, ∃ whole left,
        written context side (start context now) events = replayedTo events side ++
          written context side (answered.splice context replaying) late ∧
        Half.Tally (Half.chunks (moves side.other late))
          (written context side (answered.splice context replaying) late) whole left ∧
        summary.bytesTo side = (replayedTo events side).length + whole ∧
        summary.bytesTo side ≤ (written context side (start context now) events).length ∧
        (written context side (start context now) events).length <
          summary.bytesTo side + Half.chunkLimit ∧
        (.shut side ∈ late → (∀ fault, .writeFailed side fault ∉ late) →
          summary.bytesTo side = (written context side (start context now) events).length) := by
  have spoken : last.voice? = some .backend := by
    unfold Session.voice?
    rw [result?_eq_some_iff.mp succeeded]
  obtain ⟨early, late, answered, replaying, rfl, began, ended⟩ := exists_splice ran nofun spoken
  obtain ⟨connected, -, prior⟩ := written_at_splice began
  refine ⟨early, late, answered, replaying, rfl, began, ?_⟩
  intro side
  obtain ⟨half, half_ran, late_written, counted⟩ :=
    exists_half_of_splice began ended succeeded side
  have course := Half.course_run half_ran
  obtain ⟨left, tally⟩ := course.tally
  have all : written context side (start context now) (early ++ late) =
      replayedTo early side ++ written context side (answered.splice context replaying) late := by
    rw [written_append began, prior]
  rw [← late_written] at tally
  have bounded := tally.bounded
  have length := congrArg List.length all
  rw [List.length_append] at length
  rw [sniffed_of_splice connected]
  refine ⟨half.moved, left, all, tally, counted, by omega, by omega, ?_⟩
  intro shut unfailed
  rw [← Side.other_other side] at shut unfailed
  have stopped := course.stopped_of_shut (shut_mem_moves_iff.mpr shut) fun failed =>
    (failed_mem_moves failed).elim unfailed
  have whole := tally.whole_eq (late_written.trans (course.whole stopped))
  rw [counted, length, whole]

end

-- The client has room for three of eight bytes, and the watch ends the splice.
def cutOffEvents : List Event :=
  helloApproach ++ [.attempted none, .accepted .backend 62, .received .client [1],
    .accepted .backend 1, .received .backend (List.replicate 8 7), .accepted .client 3,
    .elapsed 100]

theorem exists_run_cutOffEvents : ∃ session,
    run watchedContext (start watchedContext 0) cutOffEvents = some session ∧
      session.result? = some (.ok ⟨"a", .v4 ⟨1⟩ 443, 63, 0⟩) := by
  have finished : (run watchedContext (start watchedContext 0) cutOffEvents).bind summary? =
      some ⟨"a", .v4 ⟨1⟩ 443, 63, 0⟩ := by
    decide +kernel
  obtain ⟨session, ran, finished⟩ := Option.bind_eq_some_iff.mp finished
  refine ⟨session, ran, result?_eq_some_iff.mpr ?_⟩
  unfold summary? at finished
  split at finished
  next found => rw [found, Option.some.inj finished]
  next => cases finished

-- A client can have taken bytes that the summary does not count.
theorem summary_misses_taken_bytes : ∃ session summary,
    run watchedContext (start watchedContext 0) cutOffEvents = some session ∧
      session.result? = some (.ok summary) ∧ summary.bytesFromBackend = 0 ∧
        written watchedContext .client (start watchedContext 0) cutOffEvents = [7, 7, 7] := by
  obtain ⟨session, ran, succeeded⟩ := exists_run_cutOffEvents
  exact ⟨session, _, ran, succeeded, rfl, by decide +kernel⟩

theorem cutOffEvents_count_whole_chunks : ∃ session summary,
    run watchedContext (start watchedContext 0) cutOffEvents = some session ∧
      session.result? = some (.ok summary) ∧ ∀ side, summary.bytesTo side ≤
        (written watchedContext side (start watchedContext 0) cutOffEvents).length := by
  obtain ⟨session, ran, succeeded⟩ := exists_run_cutOffEvents
  obtain ⟨early, late, answered, replaying, -, -, each⟩ :=
    summaries_count_whole_chunks ran succeeded
  refine ⟨session, _, ran, succeeded, ?_⟩
  intro side
  obtain ⟨whole, left, -, -, -, counted, -⟩ := each side
  exact counted

end Session

end SniffingRelay
