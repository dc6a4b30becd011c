import SniffingRelay.Proofs.Session.Interleaving

set_option autoImplicit false

namespace SniffingRelay.Session

/-- What is written for a source is a front of what was read from it, and all of that if it ends.
The side that is written to is shut once, after all else that the direction does. -/
structure Faithful (context : Context) (source : Side) (session : Session) (events : List Event) :
    Prop where
  front : written context source.other session events <+: arrived source events
  whole : .ended source ∈ events →
    written context source.other session events = arrived source events
  once : events.countP (Event.shuts source.other) ≤ 1
  last : ∀ front back, events = front ++ .shut source.other :: back → moves source back = [] ∧
    ∃ earlier, moves source front = earlier ++ [.sourceStopped] ∧
        written context source.other session front = arrived source front ∨
      moves source front = earlier ++ [.sinkFailed]

structure SameEnds (source : Side) (events others : List Event) : Prop where
  sources : (moves source events).filter Move.isOfSource =
    (moves source others).filter Move.isOfSource
  sinks : (moves source events).filter (!·.isOfSource) =
    (moves source others).filter (!·.isOfSource)

section

variable {context : Context} {session last : Session} {replaying : Replaying} {events : List Event}

theorem exists_half_of_run (ran : run context (session.splice context replaying) events = some last)
    (source : Side) : ∃ half, Half.run {} (moves source events) = some half ∧
      written context source.other (session.splice context replaying) events =
        Half.writes {} (moves source events) := by
  obtain ⟨splice, begun, new, -⟩ := splice_eq context session replaying
  rw [begun] at ran ⊢
  obtain ⟨next, -, -, each⟩ := halves_run (not_isDone_of_new new) ran
  have own := each source
  rw [new] at own
  exact ⟨next.half source, own⟩

theorem faithful_of_run (ran : run context (session.splice context replaying) events = some last)
    (source : Side) : Faithful context source (session.splice context replaying) events := by
  obtain ⟨half, half_ran, written⟩ := exists_half_of_run ran source
  have course := Half.course_run half_ran
  refine ⟨?_, ?_, ?_, ?_⟩
  next =>
    obtain ⟨left, tally⟩ := course.tally
    rw [written, arrived_eq_chunks]
    exact tally.front
  next =>
    intro ended
    rw [written, arrived_eq_chunks]
    exact course.whole (List.mem_filterMap.mpr ⟨_, ended, move?_eq_stopped_of_ended source⟩)
  next => exact count_shut_moves source events ▸ course.shut_once
  next =>
    rintro front back rfl
    rw [run_append] at ran
    obtain ⟨between, began, -⟩ := Option.bind_eq_some_iff.mp ran
    obtain ⟨-, -, written⟩ := exists_half_of_run began source
    have split : moves source (front ++ .shut source.other :: back) =
        moves source front ++ .sinkShut :: moves source back := by
      have part : (Event.shut source.other).part? = some (source, .sinkShut) := by
        simp [Event.part?, Side.other_other]
      rw [moves_append, moves_cons_of_part part]
    obtain ⟨nothing, stops⟩ := course.shut_last split
    obtain ⟨earlier, -, cause⟩ := stops.cause
    rw [written, arrived_eq_chunks]
    exact ⟨nothing, earlier, cause⟩

theorem over_iff_shut (unwatched : context.service.idleLimit = none)
    (ran : run context (session.splice context replaying) events = some last) :
    last.result?.isSome = true ↔ ∀ side, .shut side ∈ events := by
  obtain ⟨splice, begun, new, watch, -⟩ := splice_eq context session replaying
  rw [begun] at ran
  rw [unwatched] at watch
  obtain ⟨next, -, stands, each⟩ := halves_run (not_isDone_of_new new) ran
  have shut (source : Side) :
      (next.half source).isFinished = true ↔ .shut source.other ∈ events := by
    have own := (each source).1
    rw [new] at own
    rw [(Half.course_run own).isFinished_iff_shut, shut_mem_moves_iff]
  have done : next.IsDone ↔ ∀ side, .shut side ∈ events := by
    constructor
    next =>
      intro done side
      have other := (shut side.other).mp (done side.other)
      rwa [Side.other_other] at other
    next =>
      intro all source
      exact (shut source).mpr (all source.other)
  rw [← done]
  obtain ⟨clock, phase, ledger⟩ := last
  cases stands with
  | going undone => exact ⟨nofun, fun done => absurd done undone⟩
  | done ended => exact ⟨fun _ => ended watch, fun _ => rfl⟩

theorem run_isSome_iff (unwatched : context.service.idleLimit = none) :
    (run context (session.splice context replaying) events).isSome = true ↔
      Relays events ∧ ∀ source, (Half.run {} (moves source events)).isSome = true := by
  constructor
  next =>
    intro ran
    obtain ⟨last, ran⟩ := Option.isSome_iff_exists.mp ran
    refine ⟨relays_run ran rfl, fun source => ?_⟩
    obtain ⟨half, half_ran, -⟩ := exists_half_of_run ran source
    exact Option.isSome_of_eq_some half_ran
  next =>
    rintro ⟨relays, each⟩
    obtain ⟨splice, begun, new, watch, -⟩ := splice_eq context session replaying
    rw [unwatched] at watch
    rw [begun]
    apply exists_run_of_halves watch (not_isDone_of_new new) relays
    simpa only [new] using each

/-- Each direction of a splice without a watch is faithful, and the splice is over when both sides
were shut. Whatever the halves do by themselves is a run of it, in every order. What a direction
delivers follows from what its own source and its own sink do, in this splice as in any other. -/
theorem directions_are_independent (unwatched : context.service.idleLimit = none)
    (session : Session) (replaying : Replaying) :
    (∀ events, (run context (session.splice context replaying) events).isSome = true ↔
      Relays events ∧ ∀ source, (Half.run {} (moves source events)).isSome = true) ∧
    ∀ events last, run context (session.splice context replaying) events = some last →
      (last.result?.isSome = true ↔ ∀ side, .shut side ∈ events) ∧
      ∀ source, Faithful context source (session.splice context replaying) events ∧
        written context source.other (session.splice context replaying) events =
          Half.writes {} (moves source events) ∧
        ∀ context' (session' : Session) replaying' others last',
          run context' (session'.splice context' replaying') others = some last' →
            SameEnds source events others →
              written context' source.other (session'.splice context' replaying') others =
                written context source.other (session.splice context replaying) events ∧
              (.shut source.other ∈ others ↔ .shut source.other ∈ events) := by
  refine ⟨fun events => run_isSome_iff unwatched, ?_⟩
  intro events last ran
  refine ⟨over_iff_shut unwatched ran, ?_⟩
  intro source
  obtain ⟨half, half_ran, written⟩ := exists_half_of_run ran source
  refine ⟨faithful_of_run ran source, written, ?_⟩
  intro context' session' replaying' others last' ran' ends
  obtain ⟨half', half_ran', written'⟩ := exists_half_of_run ran' source
  have same : moves source events = moves source others :=
    Half.moves_eq_of_ends half_ran half_ran' ends.sources ends.sinks
  refine ⟨?_, ?_⟩
  next => rw [written', ← same, written]
  next => rw [← shut_mem_moves_iff, ← same, shut_mem_moves_iff]

end

-- The backend takes two bytes of three and fails; the client is still sent all that comes.
def halfwayEvents : List Event :=
  [.received .client [1, 2, 3], .received .backend [4, 5], .accepted .backend 2,
    .accepted .client 1, .writeFailed .backend .brokenPipe, .elapsed 5, .accepted .client 1,
    .shut .backend, .received .backend [6], .accepted .client 1, .ended .backend, .shut .client]

theorem halfwayEvents_are_independent :
    helloContext.service.idleLimit = none ∧
    ∃ last, run helloContext ((start helloContext 0).splice helloContext ⟨"a", .v4 ⟨1⟩ 443, []⟩)
        halfwayEvents = some last ∧ last.result?.isSome = true ∧
      written helloContext .client
          ((start helloContext 0).splice helloContext ⟨"a", .v4 ⟨1⟩ 443, []⟩) halfwayEvents =
        [4, 5, 6] ∧
      written helloContext .backend
          ((start helloContext 0).splice helloContext ⟨"a", .v4 ⟨1⟩ 443, []⟩) halfwayEvents =
        [1, 2] := by
  obtain ⟨runs, independent⟩ :=
    @directions_are_independent helloContext rfl (start helloContext 0) ⟨"a", .v4 ⟨1⟩ 443, []⟩
  have each (source : Side) : (Half.run {} (moves source halfwayEvents)).isSome = true := by
    cases source <;> decide +kernel
  have relays : Relays halfwayEvents := by simp [Relays, halfwayEvents, Event.part?, Event.waits]
  obtain ⟨last, ran⟩ := Option.isSome_iff_exists.mp ((runs halfwayEvents).mpr ⟨relays, each⟩)
  obtain ⟨ended, directions⟩ := independent _ _ ran
  have up : written helloContext .backend _ halfwayEvents = _ := (directions .client).2.1
  have down : written helloContext .client _ halfwayEvents = _ := (directions .backend).2.1
  refine ⟨rfl, last, ran, ended.mpr ?_, ?_, ?_⟩
  next =>
    intro side
    cases side <;> simp [halfwayEvents]
  next =>
    rw [down]
    decide +kernel
  next =>
    rw [up]
    decide +kernel

end SniffingRelay.Session
