import SniffingRelay.Proofs.Session.Halves

set_option autoImplicit false

namespace SniffingRelay.Session

-- The half that an event moves, named by the side it reads from, and how it moves.
def Event.part? : Event -> Option (Side × Move)
  | .received side bytes => some (side, .read bytes)
  | .ended side | .readFailed side _ => some (side, .sourceStopped)
  | .accepted side count => some (side.other, .wrote count)
  | .writeFailed side _ => some (side.other, .sinkFailed)
  | .shut side => some (side.other, .sinkShut)
  | .flushed | .resolved _ | .attempted _ | .elapsed _ => none

def Event.move? (source : Side) (event : Event) : Option Move :=
  event.part?.bind fun (side, move) => if side = source then some move else none

def Relays (events : List Event) : Prop :=
  ∀ event ∈ events, event.part?.isSome = true ∨ event.waits = true

def moves (source : Side) (events : List Event) : List Move := events.filterMap (Event.move? source)

section

variable {source side : Side} {move : Move} {event : Event} {events : List Event}

theorem moves_append (source : Side) (events later : List Event) :
    moves source (events ++ later) = moves source events ++ moves source later :=
  List.filterMap_append

theorem moves_cons_of_part (part : event.part? = some (source, move)) (events : List Event) :
    moves source (event :: events) = move :: moves source events := by
  have own : event.move? source = some move := by simp [Event.move?, part]
  simp [moves, own]

theorem moves_cons_of_other (part : event.part? = some (source, move)) (other : source ≠ side)
    (events : List Event) : moves side (event :: events) = moves side events := by
  have none : event.move? side = none := by simp [Event.move?, part, other]
  simp [moves, none]

theorem moves_cons_of_none (unmoved : event.part? = none) (source : Side) (events : List Event) :
    moves source (event :: events) = moves source events := by
  have none : event.move? source = none := by simp [Event.move?, unmoved]
  simp [moves, none]

theorem part?_of_waits (waits : event.waits = true) : event.part? = none := by
  cases event with
  | elapsed => rfl
  | _ => cases waits

theorem moves_of_waits (waits : ∀ event ∈ events, event.waits = true) (source : Side) :
    moves source events = [] := by
  induction events with
  | nil => rfl
  | cons event events ih =>
    rw [List.forall_mem_cons] at waits
    rw [moves_cons_of_none (part?_of_waits waits.1), ih waits.2]

theorem waits_of_moves_nil (relays : Relays events)
    (none_left : ∀ source, moves source events = []) : ∀ event ∈ events, event.waits = true := by
  intro event found
  apply (relays event found).resolve_left
  intro parted
  obtain ⟨⟨source, move⟩, part⟩ := Option.isSome_iff_exists.mp parted
  have own : event.move? source = some move := by simp [Event.move?, part]
  have among : move ∈ moves source events := List.mem_filterMap.mpr ⟨event, found, own⟩
  rw [none_left source] at among
  cases among

theorem taken_of_part (part : event.part? = some (source, move)) (offered : List UInt8) :
    event.taken offered source.other = move.taken offered := by
  cases event <;> cases part <;> simp [Event.taken, Move.taken, Side.other_other]

theorem taken_of_other (part : event.part? = some (source, move)) (offered : List UInt8) :
    event.taken offered source = [] := by
  cases event with
  | accepted sink count =>
    cases part
    cases sink <;> simp [Event.taken, Side.other]
  | _ => rfl

theorem taken_of_none (unmoved : event.part? = none) (offered : List UInt8) (side : Side) :
    event.taken offered side = [] := by
  cases event with
  | accepted => cases unmoved
  | _ => rfl

theorem carried_eq_chunk (source : Side) (event : Event) :
    event.carried source = (((event.move? source).bind Move.chunk?).toList).flatten := by
  cases event with
  | received side bytes =>
    by_cases same : side = source <;>
      simp [Event.carried, Event.move?, Event.part?, Move.chunk?, same]
  | ended side | readFailed side | accepted side | writeFailed side | shut side =>
    simp only [Event.carried, Event.move?, Event.part?, Option.bind_some]
    split <;> rfl
  | flushed | resolved | attempted | elapsed => rfl

theorem arrived_eq_chunks (source : Side) (events : List Event) :
    arrived source events = (Half.chunks (moves source events)).flatten := by
  induction events with
  | nil => rfl
  | cons event events ih =>
    have first : arrived source (event :: events) = event.carried source ++ arrived source events :=
      List.flatMap_cons
    rw [first, carried_eq_chunk, ih]
    cases own : event.move? source with
    | none => simp [Half.chunks, moves, own]
    | some move =>
      cases chunk : move.chunk? <;> simp [Half.chunks, moves, own, chunk]

theorem move?_eq_stopped_of_ended (source : Side) :
    (Event.ended source).move? source = some .sourceStopped := by
  simp [Event.move?, Event.part?]

theorem failed_mem_moves (found : .sinkFailed ∈ moves source events) :
    ∃ fault, .writeFailed source.other fault ∈ events := by
  obtain ⟨event, among, own⟩ := List.mem_filterMap.mp found
  cases event with
  | writeFailed side fault =>
    have same : side.other = source := by simpa [Event.move?, Event.part?] using own
    subst same
    exact ⟨fault, by rwa [Side.other_other]⟩
  | received side | ended side | readFailed side | accepted side | shut side =>
    simp [Event.move?, Event.part?] at own
  | flushed | resolved | attempted | elapsed => cases own

theorem move?_eq_shut_iff : event.move? source = some .sinkShut ↔ event = .shut source.other := by
  cases event with
  | shut side => cases side <;> cases source <;> simp [Event.move?, Event.part?, Side.other]
  | received side | ended side | readFailed side | accepted side | writeFailed side =>
    simp [Event.move?, Event.part?]
  | flushed | resolved | attempted | elapsed => simp [Event.move?, Event.part?]

theorem shut_mem_moves_iff : .sinkShut ∈ moves source events ↔ .shut source.other ∈ events := by
  simp [moves, move?_eq_shut_iff]

theorem count_shut_moves (source : Side) (events : List Event) :
    (moves source events).count .sinkShut = events.countP (Event.shuts source.other) := by
  rw [moves, List.count_filterMap]
  apply List.countP_congr
  intro event found
  rw [beq_iff_eq, move?_eq_shut_iff]
  cases event <;> simp [Event.shuts]

end

section

variable {context : Context} {clock : Nat} {splice : Splice} {ledger : Ledger} {event : Event}
  {session last : Session} {source : Side} {move : Move} {events : List Event}

theorem move_eq_map (session : Session) (splice : Splice) (source : Side) (move : Move) :
    session.move splice source move = ((splice.half source).step move).map fun half =>
      session.settle
        (splice.advance source half ((splice.half source).isAlive move) session.clock) := by
  cases stepped : (splice.half source).step move with
  | none => simp [Session.move, stepped]
  | some half => cases source <;> simp [Session.move, stepped, Splice.advance]

theorem step_of_part (part : event.part? = some (source, move)) :
    step context ⟨clock, .splicing splice, ledger⟩ event =
      ((splice.half source).step move).map fun half =>
        settle ⟨clock, .splicing splice, record ledger splice.offered event⟩
          (splice.advance source half ((splice.half source).isAlive move) clock) := by
  have moves : step context ⟨clock, .splicing splice, ledger⟩ event =
      Session.move ⟨clock, .splicing splice, record ledger splice.offered event⟩ splice source
        move := by
    cases event <;> cases part <;> rfl
  rw [moves, move_eq_map]

theorem waits_of_step {next : Session} (unmoved : event.part? = none)
    (stepped : step context ⟨clock, .splicing splice, ledger⟩ event = some next) :
    ∃ milliseconds, event = .elapsed milliseconds ∧
      next = ring context ⟨clock + milliseconds, .splicing splice, ledger⟩ := by
  cases event with
  | elapsed milliseconds => exact ⟨milliseconds, rfl, (Option.some.inj stepped).symm⟩
  | flushed | resolved | attempted => cases stepped
  | received | ended | readFailed | accepted | writeFailed | shut => cases unmoved

theorem written_of_waits (waits : ∀ event ∈ events, event.waits = true) (session : Session)
    (side : Side) : written context side session events = [] := by
  induction events generalizing session with
  | nil => rfl
  | cons event events ih =>
    rw [List.forall_mem_cons] at waits
    rw [written, taken_of_none (part?_of_waits waits.1), List.nil_append]
    cases session.step context event with
    | none => rfl
    | some next => exact ih waits.2 next

end

structure Continues (splice next : Splice) : Prop where
  host : next.host = splice.host
  backend : next.backend = splice.backend
  replayed : next.replayed = splice.replayed
  unwatched : splice.watch = none → next.watch = none

def Splice.IsDone (splice : Splice) : Prop := ∀ source, (splice.half source).isFinished = true

-- Where a run of a splice leads to, if its halves by themselves come to those of `next`.
inductive Stands (splice next : Splice) : Phase -> Prop where
  | going (undone : ¬next.IsDone) : Stands splice next (.splicing next)
  | done (ended : splice.watch = none → next.IsDone) :
      Stands splice next (.over (.ok next.summary))

theorem Continues.refl (splice : Splice) : Continues splice splice := ⟨rfl, rfl, rfl, id⟩

theorem Continues.trans {splice next last : Splice} (first : Continues splice next)
    (second : Continues next last) : Continues splice last :=
  ⟨second.host.trans first.host, second.backend.trans first.backend,
    second.replayed.trans first.replayed, second.unwatched ∘ first.unwatched⟩

theorem Stands.of_continues {splice next last : Splice} {phase : Phase}
    (continues : Continues splice next) (stands : Stands next last phase) :
    Stands splice last phase := by
  cases stands with
  | going undone => exact .going undone
  | done ended => exact .done (ended ∘ continues.unwatched)

theorem continues_advance (splice : Splice) (source : Side) (half : Half) (alive : Bool)
    (clock : Nat) : Continues splice (splice.advance source half alive clock) := by
  cases source <;> cases alive <;>
    exact ⟨rfl, rfl, rfl, fun unwatched => by simp [Splice.advance, unwatched]⟩

section

variable {context : Context} {clock : Nat} {splice : Splice} {ledger : Ledger} {event : Event}
  {session last : Session} {source : Side} {move : Move} {events : List Event} {half : Half}

theorem isDone_iff (splice : Splice) :
    splice.IsDone ↔ splice.up.isFinished = true ∧ splice.down.isFinished = true := by
  constructor
  next =>
    intro done
    exact ⟨done .client, done .backend⟩
  next =>
    intro done source
    cases source with
    | client => exact done.1
    | backend => exact done.2

theorem not_isDone_of_new {splice : Splice} (new : ∀ source, splice.half source = {}) :
    ¬splice.IsDone := by
  intro done
  have finished := done .client
  rw [new] at finished
  cases finished

theorem settle_of_done (done : splice.IsDone) (session : Session) :
    session.settle splice = session.close (.ok splice.summary) :=
  if_pos ((isDone_iff splice).mp done)

theorem settle_of_undone (undone : ¬splice.IsDone) (session : Session) :
    session.settle splice = { session with phase := .splicing splice } :=
  if_neg (mt (isDone_iff splice).mpr undone)

-- All that a step of a splice can be: a half moves, which may be the last of its moves, or time
-- passes, and the watch goes on or ends the splice.
inductive Advances (context : Context) (clock : Nat) (splice : Splice) (ledger : Ledger) :
    Event -> Session -> Prop where
  | moved {event : Event} {source : Side} {move : Move} {half : Half}
      (part : event.part? = some (source, move))
      (stepped : (splice.half source).step move = some half)
      (undone : ¬(splice.advance source half ((splice.half source).isAlive move) clock).IsDone) :
      Advances context clock splice ledger event ⟨clock, .splicing
        (splice.advance source half ((splice.half source).isAlive move) clock),
        record ledger splice.offered event⟩
  | completed {event : Event} {source : Side} {move : Move} {half : Half}
      (part : event.part? = some (source, move))
      (stepped : (splice.half source).step move = some half)
      (done : (splice.advance source half ((splice.half source).isAlive move) clock).IsDone) :
      Advances context clock splice ledger event ⟨clock, .over (.ok
        (splice.advance source half ((splice.half source).isAlive move) clock).summary),
        record ledger splice.offered event⟩
  | waited {milliseconds : Nat} {watch : Option Watch}
      (looked : (splice.watch.map fun watch => watch.look (clock + milliseconds)) =
        watch.map some) :
      Advances context clock splice ledger (.elapsed milliseconds)
        ⟨clock + milliseconds, .splicing { splice with watch }, ledger⟩
  | expired {milliseconds : Nat} {watch : Watch} (watched : splice.watch = some watch)
      (idle : watch.look (clock + milliseconds) = none) :
      Advances context clock splice ledger (.elapsed milliseconds)
        ⟨clock + milliseconds, .over (.ok splice.summary), ledger⟩

theorem advances_of_step {next : Session}
    (stepped : step context ⟨clock, .splicing splice, ledger⟩ event = some next) :
    Advances context clock splice ledger event next := by
  cases part : event.part? with
  | none =>
    obtain ⟨milliseconds, rfl, rfl⟩ := waits_of_step part stepped
    obtain ⟨host, backend, replayed, up, down, watch⟩ := splice
    cases watch with
    | none => exact .waited rfl
    | some watch =>
      cases look : watch.look (clock + milliseconds) with
      | none =>
        simp only [ring, look, close]
        exact .expired rfl look
      | some later =>
        simp only [ring, look]
        exact .waited (by simp [look])
  | some own =>
    obtain ⟨source, move⟩ := own
    obtain ⟨half, half_stepped, rfl⟩ := Option.map_eq_some_iff.mp (step_of_part part ▸ stepped)
    by_cases done : (splice.advance source half ((splice.half source).isAlive move) clock).IsDone
    next =>
      rw [settle_of_done done]
      exact .completed part half_stepped done
    next =>
      rw [settle_of_undone done]
      exact .moved part half_stepped done

theorem run_half_cons (part : event.part? = some (source, move))
    (stepped : (splice.half source).step move = some half) (alive : Bool) (clock : Nat)
    (events : List Event) (side : Side) :
    (splice.half side).run (moves side (event :: events)) =
      ((splice.advance source half alive clock).half side).run (moves side events) := by
  by_cases same : side = source
  next =>
    subst same
    rw [moves_cons_of_part part, half_advance, Half.run, stepped]
    rfl
  next =>
    obtain rfl : side = source.other := by
      cases side <;> cases source <;> first | rfl | exact absurd rfl same
    rw [moves_cons_of_other part (Ne.symm same), half_other_advance]

theorem writes_half_cons (part : event.part? = some (source, move))
    (stepped : (splice.half source).step move = some half) (alive : Bool) (clock : Nat)
    (events : List Event) (side : Side) :
    (splice.half side).writes (moves side (event :: events)) =
      event.taken (splice.half side).unsent side.other ++
        ((splice.advance source half alive clock).half side).writes (moves side events) := by
  by_cases same : side = source
  next =>
    subst same
    rw [moves_cons_of_part part, half_advance, Half.writes, stepped, taken_of_part part]
    rfl
  next =>
    obtain rfl : side = source.other := by
      cases side <;> cases source <;> first | rfl | exact absurd rfl same
    rw [moves_cons_of_other part (Ne.symm same), half_other_advance, Side.other_other,
      taken_of_other part, List.nil_append]

theorem halves_run (undone : ¬splice.IsDone)
    (ran : run context ⟨clock, .splicing splice, ledger⟩ events = some last) :
    ∃ next, Continues splice next ∧ Stands splice next last.phase ∧ ∀ source,
      (splice.half source).run (moves source events) = some (next.half source) ∧
        written context source.other ⟨clock, .splicing splice, ledger⟩ events =
          (splice.half source).writes (moves source events) := by
  -- The end of the splice, by its halves or by its watch, leaves no more moves to make.
  induction events generalizing clock splice ledger with
  | nil =>
    obtain rfl := Option.some.inj ran
    exact ⟨splice, .refl splice, .going undone, fun _ => ⟨rfl, rfl⟩⟩
  | cons event events ih =>
    obtain ⟨session, stepped, ran⟩ := Option.bind_eq_some_iff.mp ran
    have written_cons (source : Side) :
        written context source.other ⟨clock, .splicing splice, ledger⟩ (event :: events) =
          event.taken (splice.half source).unsent source.other ++
            written context source.other session events := by
      rw [written, stepped, offered_splicing, Splice.offered, Side.other_other]
      rfl
    simp only [written_cons]
    cases advances_of_step stepped with
    | @moved _ source move half part half_stepped undone =>
      have begins := continues_advance splice source half ((splice.half source).isAlive move) clock
      obtain ⟨next, continues, stands, each⟩ := ih undone ran
      refine ⟨next, begins.trans continues, stands.of_continues begins, ?_⟩
      intro side
      obtain ⟨half_ran, half_wrote⟩ := each side
      rw [run_half_cons part half_stepped, writes_half_cons part half_stepped, half_wrote]
      exact ⟨half_ran, rfl⟩
    | @completed _ source move half part half_stepped done =>
      obtain ⟨waits, phase⟩ := run_over ran
      rw [phase]
      refine ⟨_, continues_advance .., .done fun _ => done, ?_⟩
      intro side
      have half_ran :=
        run_half_cons part half_stepped ((splice.half source).isAlive move) clock events side
      have half_wrote :=
        writes_half_cons part half_stepped ((splice.half source).isAlive move) clock events side
      rw [half_ran, half_wrote, moves_of_waits waits, written_of_waits waits]
      exact ⟨rfl, rfl⟩
    | @waited milliseconds watch looked =>
      have same (side : Side) : ({ splice with watch } : Splice).half side = splice.half side := by
        cases side <;> rfl
      have still : ¬({ splice with watch } : Splice).IsDone := by
        simpa only [Splice.IsDone, same] using undone
      have begins : Continues splice { splice with watch } := by
        refine ⟨rfl, rfl, rfl, fun unwatched => ?_⟩
        rw [unwatched] at looked
        exact Option.map_eq_none_iff.mp looked.symm
      obtain ⟨next, continues, stands, each⟩ := ih still ran
      simp only [same] at each
      refine ⟨next, begins.trans continues, stands.of_continues begins, ?_⟩
      intro side
      rw [moves_cons_of_none rfl, taken_of_none rfl, List.nil_append]
      exact each side
    | expired watched =>
      obtain ⟨waits, phase⟩ := run_over ran
      rw [phase]
      refine ⟨splice, .refl splice, .done fun unwatched => ?_, ?_⟩
      next =>
        rw [watched] at unwatched
        cases unwatched
      next =>
        intro side
        rw [moves_cons_of_none rfl, taken_of_none rfl, moves_of_waits waits, written_of_waits waits]
        exact ⟨rfl, rfl⟩

theorem Moves.relays {next : Half} {alive : Bool} (moves : Moves source half event alive next) :
    event.part?.isSome = true := by
  cases moves <;> rfl

theorem relays_run (ran : run context session events = some last)
    (spoken : session.voice? = some .backend) : Relays events := by
  induction events generalizing session with
  | nil => exact nofun
  | cons event events ih =>
    obtain ⟨next, stepped, ran⟩ := Option.bind_eq_some_iff.mp ran
    have stepped := transition_of_step stepped
    refine List.forall_mem_cons.mpr ⟨?_, ih ran (stepped.voice? spoken)⟩
    cases stepped with
    | moved moves => exact .inl moves.relays
    | elapsed => exact .inr rfl
    | _ => cases spoken

theorem splice_eq (context : Context) (session : Session) (replaying : Replaying) :
    ∃ splice : Splice, session.splice context replaying =
        ⟨session.clock, .splicing splice, session.ledger⟩ ∧
      (∀ source, splice.half source = {}) ∧
      splice.watch = context.service.idleLimit.map (Watch.start · session.clock) ∧
      splice.replayed = session.ledger.backend.told.size := by
  refine ⟨_, rfl, ?_, rfl, rfl⟩
  intro source
  cases source <;> rfl

theorem exists_run_of_halves (unwatched : splice.watch = none) (undone : ¬splice.IsDone)
    (relays : Relays events)
    (each : ∀ source, ((splice.half source).run (moves source events)).isSome = true) :
    (run context ⟨clock, .splicing splice, ledger⟩ events).isSome = true := by
  induction events generalizing clock splice ledger with
  | nil => rfl
  | cons event events ih =>
    obtain ⟨relay, others⟩ := List.forall_mem_cons.mp relays
    cases part : event.part? with
    | none =>
      have waits : event.waits = true := by simpa [part] using relay
      cases event with
      | elapsed milliseconds =>
        simp only [moves_cons_of_none part] at each
        have still : ring context ⟨clock + milliseconds, .splicing splice, ledger⟩ =
            ⟨clock + milliseconds, .splicing splice, ledger⟩ := by
          simp only [ring, unwatched]
        rw [run, step, still]
        exact ih unwatched undone others each
      | _ => cases waits
    | some own =>
      obtain ⟨source, move⟩ := own
      obtain ⟨_, ran⟩ := Option.isSome_iff_exists.mp (each source)
      rw [moves_cons_of_part part] at ran
      obtain ⟨half, stepped, -⟩ := Option.bind_eq_some_iff.mp ran
      simp only [run_half_cons part stepped ((splice.half source).isAlive move) clock] at each
      have begins := continues_advance splice source half ((splice.half source).isAlive move) clock
      rw [run, step_of_part part, stepped, Option.map_some, Option.bind_eq_bind, Option.bind_some]
      generalize splice.advance source half ((splice.half source).isAlive move) clock = advanced
        at each begins
      by_cases done : advanced.IsDone
      next =>
        have finished (source : Side) : moves source events = [] := by
          obtain ⟨last, ran⟩ := Option.isSome_iff_exists.mp (each source)
          exact Half.eq_nil_of_run_finished (done source) ran
        rw [settle_of_done done]
        have waits := waits_of_moves_nil others finished
        exact Option.isSome_of_eq_some (run_waits waits fun _ _ => rfl)
      next =>
        rw [settle_of_undone done]
        exact ih (begins.unwatched unwatched) done others each

end

end SniffingRelay.Session
