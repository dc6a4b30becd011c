import SniffingRelay.Proofs.Session.Interleaving

set_option autoImplicit false

namespace SniffingRelay

namespace Watch

-- A watch that has seen no later than now, and does not sleep too long.
structure Ready (watch : Watch) (now : Nat) : Prop where
  seen : watch.last ≤ now
  prompt : watch.wake ≤ watch.last + watch.limit

variable {watch later : Watch} {now : Nat}

theorem ready_start (limit now : Nat) : (start limit now).Ready now :=
  ⟨Nat.le_refl _, Nat.le_refl _⟩

theorem Ready.wait (ready : watch.Ready now) (milliseconds : Nat) :
    watch.Ready (now + milliseconds) :=
  ⟨Nat.le_add_right_of_le ready.seen, ready.prompt⟩

theorem Ready.last_touch (ready : watch.Ready now) : (watch.touch now).last = now :=
  Nat.max_eq_right ready.seen

theorem Ready.touch (ready : watch.Ready now) : (watch.touch now).Ready now := by
  have last := ready.last_touch
  have prompt := ready.prompt
  have seen := ready.seen
  refine ⟨Nat.le_of_eq last, ?_⟩
  rw [last]
  dsimp only [Watch.touch]
  omega

theorem Ready.look_eq_none_iff (ready : watch.Ready now) :
    watch.look now = none ↔ watch.last + watch.limit ≤ now := by
  have seen := ready.seen
  have prompt := ready.prompt
  unfold look isIdle
  by_cases early : now < watch.wake
  next =>
    simp only [early, if_true]
    exact ⟨nofun, fun idle => absurd idle (by omega)⟩
  next =>
    simp only [early, if_false, decide_eq_true_eq]
    split
    next idle => exact ⟨fun _ => by omega, fun _ => rfl⟩
    next alive => exact ⟨nofun, fun idle => absurd idle (by omega)⟩

theorem Ready.look (ready : watch.Ready now) (looked : watch.look now = some later) :
    later.Ready now ∧ later.last = watch.last ∧ later.limit = watch.limit := by
  unfold Watch.look at looked
  split at looked
  next =>
    obtain rfl := Option.some.inj looked
    exact ⟨ready, rfl, rfl⟩
  next =>
    split at looked
    next => cases looked
    next =>
      obtain rfl := Option.some.inj looked
      exact ⟨⟨ready.seen, Nat.le_refl _⟩, rfl, rfl⟩

end Watch

theorem Half.taken_of_lifeless {half next : Half} {move : Move}
    (stepped : half.step move = some next) (still : half.isAlive move = false) :
    (move.taken half.unsent).length + next.unsent.length ≤ half.unsent.length ∧
      (move.taken half.unsent = [] ∨ next.unsent ≠ []) := by
  cases steps_of_step stepped with
  | read => cases still
  | emptied => simp [isAlive, unsent] at still
  | wrote some_taken some_left =>
    refine ⟨?_, .inr ?_⟩
    next =>
      simp only [Move.taken, unsent, List.length_take, List.length_drop]
      omega
    next => simpa [unsent] using some_left
  | stopped | failed | shut => exact ⟨Nat.zero_le _, .inl rfl⟩

namespace Session

def stirs (session : Session) (event : Event) : Bool :=
  match session.phase, event.part? with
  | .splicing splice, some (source, move) => (splice.half source).isAlive move
  | _, _ => false

def signs (context : Context) : Session -> List Event -> List Nat
  | _, [] => []
  | session, event :: later =>
      (if session.stirs event then [session.clock] else []) ++
        ((session.step context event).map fun next => signs context next later).getD []

section

variable {context : Context} {session between last waiting next : Session} {event : Event}
  {events late : List Event} {clock : Nat} {splice : Splice} {ledger : Ledger} {source : Side}
  {move : Move} {watch : Watch}

theorem signs_cons (stepped : session.step context event = some next) (events : List Event) :
    signs context session (event :: events) =
      (if session.stirs event then [session.clock] else []) ++ signs context next events := by
  rw [signs, stepped]
  rfl

theorem signs_append (ran : run context session events = some between) (late : List Event) :
    signs context session (events ++ late) =
      signs context session events ++ signs context between late := by
  induction events generalizing session with
  | nil => exact Option.some.inj ran ▸ rfl
  | cons event events ih =>
    obtain ⟨next, stepped, ran⟩ := Option.bind_eq_some_iff.mp ran
    rw [List.cons_append, signs_cons stepped, signs_cons stepped, ih ran, List.append_assoc]

theorem clock_le_sign {sign : Nat} (found : sign ∈ signs context session events) :
    session.clock ≤ sign := by
  induction events generalizing session with
  | nil => cases found
  | cons event events ih =>
    cases stepped : session.step context event with
    | none =>
      rw [signs, stepped] at found
      split at found
      next => simp_all
      next => simp at found
    | some next =>
      rw [signs_cons stepped] at found
      have passed := (transition_of_step stepped).clock
      rcases List.mem_append.mp found with found | found
      next =>
        split at found
        next => exact Nat.le_of_eq (List.mem_singleton.mp found).symm
        next => cases found
      next =>
        have later := ih found
        omega

theorem stirs_of_part (part : event.part? = some (source, move)) :
    stirs ⟨clock, .splicing splice, ledger⟩ event = (splice.half source).isAlive move := by
  simp [stirs, part]

theorem stirs_of_none (unmoved : event.part? = none) : session.stirs event = false := by
  unfold stirs
  rw [unmoved]
  split
  next found => cases found
  next => rfl

theorem watch_advance (watched : splice.watch = some watch) (source : Side) (half : Half)
    (alive : Bool) (clock : Nat) : (splice.advance source half alive clock).watch =
      some (if alive then watch.touch clock else watch) := by
  cases source <;> cases alive <;> simp [Splice.advance, watched]

theorem result?_run (ran : run context session events = some last) (going : last.result? = none) :
    session.result? = none := by
  cases reported : session.result? with
  | none => rfl
  | some result =>
    obtain ⟨clock, phase, ledger⟩ := session
    obtain rfl : phase = .over result := result?_eq_some_iff.mp reported
    rw [result?_eq_some_iff.mpr (run_over ran).2] at going
    cases going

structure Sees (watch : Watch) (limit : Nat) (signs : List Nat) (now : Nat) : Prop where
  ready : watch.Ready now
  limit : watch.limit = limit
  among : watch.last ∈ signs
  latest : ∀ sign ∈ signs, sign ≤ watch.last

theorem Sees.idle_iff {limit : Nat} {signs : List Nat} (sees : Sees watch limit signs clock) :
    watch.last + watch.limit ≤ clock ↔ ∀ sign ∈ signs, sign + limit ≤ clock := by
  rw [sees.limit]
  constructor
  next =>
    intro idle sign found
    have latest := sees.latest sign found
    omega
  next =>
    intro idle
    exact idle _ sees.among

theorem Sees.older {limit earlier sign : Nat} {signs : List Nat}
    (sees : Sees watch limit (sign :: signs) clock) (older : earlier ≤ sign) :
    Sees watch limit (earlier :: sign :: signs) clock where
  ready := sees.ready
  limit := sees.limit
  among := List.mem_cons_of_mem _ sees.among
  latest := List.forall_mem_cons.mpr
    ⟨Nat.le_trans older (sees.latest sign (List.mem_cons_self ..)), sees.latest⟩

theorem watch_run {limit : Nat} (watched : splice.watch = some watch) (ready : watch.Ready clock)
    (limited : watch.limit = limit)
    (ran : run context ⟨clock, .splicing splice, ledger⟩ events = some last)
    (going : last.result? = none) :
    ∃ spliced later, last.phase = .splicing spliced ∧ spliced.watch = some later ∧
      Sees later limit
        (watch.last :: signs context ⟨clock, .splicing splice, ledger⟩ events) last.clock := by
  induction events generalizing clock splice ledger watch with
  | nil =>
    obtain rfl := Option.some.inj ran
    exact ⟨splice, watch, rfl, watched, ready, limited, List.mem_cons_self .., by simp [signs]⟩
  | cons event events ih =>
    obtain ⟨next, stepped, ran⟩ := Option.bind_eq_some_iff.mp ran
    rw [signs_cons stepped]
    cases advances_of_step stepped with
    | @moved _ source move half part half_stepped =>
      have later := watch_advance watched source half ((splice.half source).isAlive move) clock
      rw [stirs_of_part part]
      by_cases alive : (splice.half source).isAlive move = true
      next =>
        rw [if_pos alive] at later ⊢
        obtain ⟨spliced, final, phase, watched, sees⟩ := ih later ready.touch limited ran
        rw [ready.last_touch] at sees
        exact ⟨spliced, final, phase, watched, sees.older ready.seen⟩
      next =>
        rw [if_neg alive] at later ⊢
        exact ih later ready limited ran
    | @waited milliseconds rest looked =>
      rw [stirs_of_none rfl]
      cases rest with
      | none => simp [watched] at looked
      | some later =>
        rw [watched] at looked
        obtain ⟨waited, last, limits⟩ := (ready.wait milliseconds).look (Option.some.inj looked)
        rw [← last]
        exact ih rfl waited (limits.trans limited) ran
    | completed | expired => cases result?_run ran going

theorem signs_eq_nil_of_cons (stepped : session.step context event = some next)
    (lifeless : signs context session (event :: events) = []) :
    session.stirs event = false ∧ signs context next events = [] := by
  rw [signs_cons stepped, List.append_eq_nil_iff] at lifeless
  refine ⟨?_, lifeless.2⟩
  cases alive : session.stirs event with
  | false => rfl
  | true => simp [alive] at lifeless

theorem arrived_of_lifeless (ran : run context ⟨clock, .splicing splice, ledger⟩ events = some last)
    (going : last.result? = none)
    (lifeless : signs context ⟨clock, .splicing splice, ledger⟩ events = []) (side : Side) :
    arrived side events = [] := by
  induction events generalizing clock splice ledger with
  | nil => rfl
  | cons event events ih =>
    obtain ⟨next, stepped, ran⟩ := Option.bind_eq_some_iff.mp ran
    obtain ⟨still, lifeless⟩ := signs_eq_nil_of_cons stepped lifeless
    have first : arrived side (event :: events) = event.carried side ++ arrived side events :=
      List.flatMap_cons
    cases advances_of_step stepped with
    | @moved _ source move half part half_stepped =>
      have unread : event.carried side = [] := by
        cases event with
        | received side bytes => cases part; simp [stirs, Event.part?, Half.isAlive] at still
        | _ => rfl
      rw [first, unread, ih ran lifeless]
      rfl
    | waited =>
      rw [first, ih ran lifeless]
      rfl
    | completed | expired => cases result?_run ran going

-- A half that shows no sign of life writes less than it has, or nothing.
theorem written_of_lifeless (ran : run context ⟨clock, .splicing splice, ledger⟩ events = some last)
    (going : last.result? = none)
    (lifeless : signs context ⟨clock, .splicing splice, ledger⟩ events = []) (source : Side) :
    written context source.other ⟨clock, .splicing splice, ledger⟩ events = [] ∨
      (written context source.other ⟨clock, .splicing splice, ledger⟩ events).length <
        (splice.half source).unsent.length := by
  induction events generalizing clock splice ledger with
  | nil => exact .inl rfl
  | cons event events ih =>
    obtain ⟨next, stepped, ran⟩ := Option.bind_eq_some_iff.mp ran
    obtain ⟨still, lifeless⟩ := signs_eq_nil_of_cons stepped lifeless
    rw [written, stepped, offered_splicing, Splice.offered, Side.other_other, Option.map_some,
      Option.getD_some]
    cases advances_of_step stepped with
    | @moved _ mover move half part half_stepped =>
      have later := ih ran lifeless
      by_cases own : source = mover
      next =>
        subst own
        rw [stirs_of_part part] at still
        obtain ⟨fits, rest⟩ := Half.taken_of_lifeless half_stepped still
        rw [half_advance] at later
        rw [taken_of_part part, List.append_eq_nil_iff, List.length_append]
        rcases later with nothing | less
        next =>
          rcases rest with untaken | some_left
          next => exact .inl ⟨untaken, nothing⟩
          next =>
            have left := List.length_pos_iff.mpr some_left
            rw [nothing, List.length_nil]
            omega
        next => omega
      next =>
        obtain rfl : source = mover.other := by
          cases source <;> cases mover <;> first | rfl | exact absurd rfl own
        rw [half_other_advance] at later
        rw [Side.other_other] at later ⊢
        rwa [taken_of_other part, List.nil_append]
    | waited =>
      have later := ih ran lifeless
      rw [taken_of_none rfl, List.nil_append]
      cases source <;> exact later
    | completed | expired => cases result?_run ran going

theorem silent_of_lifeless {replaying : Replaying}
    (began : run context (session.splice context replaying) events = some between)
    (ran : run context between late = some last) (going : last.result? = none)
    (lifeless : signs context between late = []) (side : Side) :
    arrived side late = [] ∧ (written context side between late).length < Half.chunkLimit := by
  obtain ⟨splice, begun, new, -⟩ := splice_eq context session replaying
  rw [begun] at began
  obtain ⟨next, -, stands, each⟩ := halves_run (not_isDone_of_new new) began
  have unfinished := result?_run ran going
  obtain ⟨clock, phase, ledger⟩ := between
  cases stands with
  | done => cases unfinished
  | going =>
    refine ⟨arrived_of_lifeless ran going lifeless side, ?_⟩
    have own := (each side.other).1
    rw [new] at own
    have fits := (Half.course_run own).unsent_le
    have wrote := written_of_lifeless ran going lifeless side.other
    rw [Side.other_other] at wrote
    rcases wrote with nothing | less
    next =>
      rw [nothing]
      decide
    next => omega

/-- A splice with a watch ends by itself just when the time limit has passed since it began and
since each sign of life. In that time nothing was read, and what each side took was not the whole of
a chunk. -/
theorem idle_end_iff_lifeless {limit : Nat} (limited : context.service.idleLimit = some limit)
    {replaying : Replaying}
    (ran : run context (session.splice context replaying) events = some waiting)
    (going : waiting.result? = none) (milliseconds : Nat) :
    ∃ next, waiting.step context (.elapsed milliseconds) = some next ∧
      next.clock = waiting.clock + milliseconds ∧
      (next.result?.isSome = true ↔
        ∀ sign ∈ session.clock :: signs context (session.splice context replaying) events,
          sign + limit ≤ next.clock) ∧
      (next.result?.isSome = true → ∀ early late between, events = early ++ late →
        run context (session.splice context replaying) early = some between →
          next.clock < between.clock + limit → ∀ side, arrived side late = [] ∧
            (written context side between late).length < Half.chunkLimit) := by
  obtain ⟨splice, begun, new, watched, -⟩ := splice_eq context session replaying
  rw [limited, Option.map_some] at watched
  obtain ⟨spliced, watch, phase, later, sees⟩ :=
    watch_run watched (Watch.ready_start ..) rfl (begun ▸ ran) going
  have sees : Sees watch limit
      (session.clock :: signs context (session.splice context replaying) events) waiting.clock :=
    begun ▸ sees
  have idle_iff :
      (ring context
        ⟨waiting.clock + milliseconds, waiting.phase, waiting.ledger⟩).result?.isSome = true ↔
        ∀ sign ∈ session.clock :: signs context (session.splice context replaying) events,
          sign + limit ≤ waiting.clock + milliseconds := by
    have waited : Sees watch limit _ (waiting.clock + milliseconds) :=
      { sees with ready := sees.ready.wait milliseconds }
    rw [← waited.idle_iff, ← waited.ready.look_eq_none_iff, phase]
    cases look : watch.look (waiting.clock + milliseconds) with
    | none => simp [ring, later, look, close, result?]
    | some watch => simp [ring, later, look, result?]
  have clock : (ring context ⟨waiting.clock + milliseconds, waiting.phase, waiting.ledger⟩).clock =
      waiting.clock + milliseconds := clock_ring _
  refine ⟨_, rfl, clock, ?_, ?_⟩
  next =>
    rw [clock]
    exact idle_iff
  next =>
    intro ended early late between split began recent side
    subst split
    rw [run_append, began] at ran
    rw [clock] at recent
    have lifeless : signs context between late = [] := by
      apply List.eq_nil_iff_forall_not_mem.mpr
      intro sign found
      have after := clock_le_sign found
      have old := idle_iff.mp ended sign (by
        rw [signs_append began]
        exact List.mem_cons_of_mem _ (List.mem_append_right _ found))
      omega
    exact silent_of_lifeless began ran going lifeless side

end

def watchedContext : Context :=
  { helloContext with service := { helloContext.service with idleLimit := some 100 } }

def watchedSplice : Session :=
  (start watchedContext 0).splice watchedContext ⟨"a", .v4 ⟨1⟩ 443, []⟩

-- The client has room for three of eight bytes, and after a while for three more.
def slowStart : List Event :=
  [.received .backend (List.replicate 8 7), .accepted .client 3, .elapsed 60]

theorem watch_ends_slow_client : ∃ between waiting last,
    run watchedContext watchedSplice slowStart = some between ∧ between.clock = 60 ∧
      run watchedContext between [.accepted .client 3] = some waiting ∧ waiting.result? = none ∧
        written watchedContext .client between [.accepted .client 3] = [7, 7, 7] ∧
          waiting.step watchedContext (.elapsed 40) = some last ∧ last.clock = 100 ∧
            last.result? = some (.ok ⟨"a", .v4 ⟨1⟩ 443, 0, 0⟩) :=
  ⟨_, _, _, rfl, rfl, rfl, rfl, rfl, rfl, rfl, rfl⟩

theorem slow_client_shows_no_life : ∃ waiting last,
    run watchedContext watchedSplice (slowStart ++ [.accepted .client 3]) = some waiting ∧
      waiting.result? = none ∧ waiting.step watchedContext (.elapsed 40) = some last ∧
        signs watchedContext watchedSplice (slowStart ++ [.accepted .client 3]) = [0] ∧
          last.result?.isSome = true := by
  obtain ⟨waiting, ran, going⟩ : ∃ waiting,
      run watchedContext watchedSplice (slowStart ++ [.accepted .client 3]) = some waiting ∧
        waiting.result? = none := ⟨_, rfl, rfl⟩
  have lifeless :
      signs watchedContext watchedSplice (slowStart ++ [.accepted .client 3]) = [0] := rfl
  have passed : waiting.clock = 60 := clock_run ran
  obtain ⟨last, stepped, clock, idle, -⟩ := idle_end_iff_lifeless rfl ran going 40
  refine ⟨waiting, last, ran, going, stepped, lifeless, idle.mpr ?_⟩
  intro sign found
  have among : sign ∈ watchedSplice.clock :: signs watchedContext watchedSplice
    (slowStart ++ [.accepted .client 3]) := found
  rw [lifeless] at among
  have first : sign = 0 := by simpa [watchedSplice, splice, start] using among
  omega

end Session

end SniffingRelay
