import SniffingRelay.Proofs.Session.Idleness
import SniffingRelay.Rehearsal.Scene

set_option autoImplicit false

namespace SniffingRelay

inductive Watch.Act where
  | touches
  | waits (milliseconds : Nat)
  deriving DecidableEq, Repr

theorem Watch.last_of_look {watch later : Watch} {now : Nat} (looked : watch.look now = some later) :
    later.last = watch.last := by
  unfold look at looked
  split at looked
  next => exact Option.some.inj looked ▸ rfl
  next =>
    split at looked
    next => cases looked
    next => exact Option.some.inj looked ▸ rfl

structure Vigil where
  clock : Nat
  watch : Watch
  deriving DecidableEq, Repr

namespace Vigil

open Watch (Act)

def start (limit now : Nat) : Vigil := ⟨now, .start limit now⟩

-- Nothing is left of a vigil that finds no life.
def step (vigil : Vigil) : Act -> Option Vigil
  | .touches => some { vigil with watch := vigil.watch.touch vigil.clock }
  | .waits milliseconds =>
      (vigil.watch.look (vigil.clock + milliseconds)).map fun watch =>
        ⟨vigil.clock + milliseconds, watch⟩

def keep : Vigil -> List Act -> Option Vigil
  | vigil, [] => some vigil
  | vigil, act :: later => do keep (<- vigil.step act) later

def end? : Vigil -> List Act -> Option Nat
  | _, [] => none
  | vigil, act :: later =>
      match act, vigil.step act with
      | _, some vigil => end? vigil later
      | .waits milliseconds, none => some (vigil.clock + milliseconds)
      | .touches, none => none

def after : Nat -> List Act -> Nat
  | clock, [] => clock
  | clock, .touches :: later => after clock later
  | clock, .waits milliseconds :: later => after (clock + milliseconds) later

-- The time of the last touch, or `last` if there is none.
def lastTouch : Nat -> Nat -> List Act -> Nat
  | _, last, [] => last
  | clock, _, .touches :: later => lastTouch clock clock later
  | clock, last, .waits milliseconds :: later => lastTouch (clock + milliseconds) last later

-- A watch that sleeps, and wakes when the last sign of life is as old as the limit or before.
structure Armed (vigil : Vigil) (limit last : Nat) : Prop where
  limited : vigil.watch.limit = limit
  touched : vigil.watch.last = last
  ready : vigil.watch.Ready vigil.clock
  asleep : vigil.clock < vigil.watch.wake

section

variable {vigil next : Vigil} {act : Act} {acts : List Act} {limit last milliseconds now : Nat}

theorem armed_start (positive : 0 < limit) (now : Nat) : (start limit now).Armed limit now where
  limited := rfl
  touched := rfl
  ready := Watch.ready_start limit now
  asleep := Nat.lt_add_of_pos_right positive

theorem Armed.touch (armed : vigil.Armed limit last) :
    Armed { vigil with watch := vigil.watch.touch vigil.clock } limit vigil.clock where
  limited := armed.limited
  touched := armed.ready.last_touch
  ready := armed.ready.touch
  asleep := armed.asleep

theorem Armed.wait_eq_none_iff (armed : vigil.Armed limit last) (milliseconds : Nat) :
    vigil.step (.waits milliseconds) = none ↔ last + limit ≤ vigil.clock + milliseconds := by
  have idle := (armed.ready.wait milliseconds).look_eq_none_iff
  rw [armed.touched, armed.limited] at idle
  rw [← idle, step, Option.map_eq_none_iff]

theorem Armed.wait (armed : vigil.Armed limit last)
    (waited : vigil.step (.waits milliseconds) = some next) :
    next.clock = vigil.clock + milliseconds ∧ next.Armed limit last := by
  have recent : ¬last + limit ≤ vigil.clock + milliseconds := by
    rw [← armed.wait_eq_none_iff, waited]
    exact nofun
  obtain ⟨watch, looked, rfl⟩ := Option.map_eq_some_iff.mp waited
  obtain ⟨ready, same_last, same_limit⟩ := (armed.ready.wait milliseconds).look looked
  refine ⟨rfl, same_limit.trans armed.limited, same_last.trans armed.touched, ready, ?_⟩
  unfold Watch.look at looked
  split at looked
  next asleep => exact Option.some.inj looked ▸ asleep
  next =>
    split at looked
    next => cases looked
    next =>
      obtain rfl := Option.some.inj looked
      have touched := armed.touched
      have limited := armed.limited
      dsimp only
      omega

theorem Armed.recent (armed : vigil.Armed limit last) : vigil.clock < last + limit := by
  have prompt := armed.ready.prompt
  rw [armed.touched, armed.limited] at prompt
  exact Nat.lt_of_lt_of_le armed.asleep prompt

theorem Armed.keep (armed : vigil.Armed limit last) (kept : vigil.keep acts = some next) :
    next.clock = after vigil.clock acts ∧
      next.Armed limit (lastTouch vigil.clock last acts) := by
  induction acts generalizing vigil last with
  | nil =>
    obtain rfl := Option.some.inj kept
    exact ⟨rfl, armed⟩
  | cons act acts ih =>
    obtain ⟨between, stepped, later⟩ := Option.bind_eq_some_iff.mp kept
    cases act with
    | touches =>
      obtain rfl := Option.some.inj stepped
      have kept := ih armed.touch later
      exact kept
    | waits milliseconds =>
      obtain ⟨clock, armed⟩ := armed.wait stepped
      rw [after, lastTouch, ← clock]
      exact ih armed later

theorem keep_append (acts later : List Act) :
    vigil.keep (acts ++ later) = (vigil.keep acts).bind (·.keep later) := by
  induction acts generalizing vigil with
  | nil => rfl
  | cons act acts ih =>
    rw [List.cons_append, Vigil.keep, Vigil.keep]
    cases vigil.step act with
    | none => rfl
    | some next => exact ih

theorem end?_eq_some_iff : vigil.end? acts = some now ↔
    ∃ before milliseconds later between, acts = before ++ .waits milliseconds :: later ∧
      vigil.keep before = some between ∧ between.step (.waits milliseconds) = none ∧
        between.clock + milliseconds = now := by
  induction acts generalizing vigil with
  | nil => simp [end?]
  | cons act acts ih =>
    constructor
    next =>
      intro ended
      cases stepped : vigil.step act with
      | none =>
        cases act with
        | touches => cases stepped
        | waits milliseconds =>
          simp only [end?, stepped, Option.some.injEq] at ended
          exact ⟨[], milliseconds, acts, vigil, rfl, rfl, stepped, ended⟩
      | some next =>
        simp only [end?, stepped] at ended
        obtain ⟨before, milliseconds, later, between, rfl, kept, ended⟩ := ih.mp ended
        exact ⟨act :: before, milliseconds, later, between, rfl, by simp [keep, stepped, kept], ended⟩
    next =>
      rintro ⟨before, milliseconds, later, between, split, kept, ended, clock⟩
      rcases List.cons_eq_append_iff.mp split with ⟨rfl, same⟩ | ⟨front, rfl, rfl⟩
      next =>
        obtain ⟨rfl, rfl⟩ := List.cons.inj same
        obtain rfl := Option.some.inj kept
        simp [end?, ended, clock]
      next =>
        obtain ⟨next, stepped, kept⟩ := Option.bind_eq_some_iff.mp kept
        simp only [end?, stepped]
        exact ih.mpr ⟨front, milliseconds, later, between, rfl, kept, ended, clock⟩

theorem Armed.isSome_keep_iff (armed : vigil.Armed limit last) :
    (vigil.keep acts).isSome = true ↔
      ∀ before milliseconds later, acts = before ++ .waits milliseconds :: later →
        after vigil.clock before + milliseconds < lastTouch vigil.clock last before + limit := by
  constructor
  next =>
    rintro kept before milliseconds later rfl
    rw [keep_append] at kept
    obtain ⟨last, kept⟩ := Option.isSome_iff_exists.mp kept
    obtain ⟨between, began, kept⟩ := Option.bind_eq_some_iff.mp kept
    obtain ⟨next, stepped, -⟩ := Option.bind_eq_some_iff.mp kept
    obtain ⟨clock, armed⟩ := armed.keep began
    rw [← clock, ← Nat.not_le, ← armed.wait_eq_none_iff, stepped]
    exact nofun
  next =>
    intro recent
    induction acts generalizing vigil last with
    | nil => rfl
    | cons act acts ih =>
      cases act with
      | touches =>
        have kept := ih armed.touch fun before milliseconds later same =>
          recent (.touches :: before) milliseconds later (congrArg _ same)
        exact kept
      | waits milliseconds =>
        have first := recent [] milliseconds acts rfl
        cases stepped : vigil.step (.waits milliseconds) with
        | none => exact absurd ((armed.wait_eq_none_iff _).mp stepped) (Nat.not_le_of_lt first)
        | some next =>
          obtain ⟨clock, armed⟩ := armed.wait stepped
          have kept := ih armed fun before span later same => by
            have within := recent (.waits milliseconds :: before) span later (congrArg _ same)
            rwa [after, lastTouch, ← clock] at within
          rw [Vigil.keep, stepped]
          exact kept

theorem last_le_step (stepped : vigil.step act = some next) :
    vigil.watch.last ≤ next.watch.last := by
  cases act with
  | touches =>
    obtain rfl := Option.some.inj stepped
    exact Nat.le_max_left ..
  | waits milliseconds =>
    obtain ⟨watch, looked, rfl⟩ := Option.map_eq_some_iff.mp stepped
    exact Nat.le_of_eq (Watch.last_of_look looked).symm

theorem Armed.end?_iff (armed : vigil.Armed limit last) : vigil.end? acts = some now ↔
    ∃ before milliseconds later, acts = before ++ .waits milliseconds :: later ∧
      now = after vigil.clock before + milliseconds ∧
      lastTouch vigil.clock last before + limit ≤ now ∧
      ∀ earlier span rest, before = earlier ++ .waits span :: rest →
        after vigil.clock earlier + span < lastTouch vigil.clock last earlier + limit := by
  rw [end?_eq_some_iff]
  constructor
  next =>
    rintro ⟨before, milliseconds, later, between, rfl, kept, ended, rfl⟩
    obtain ⟨clock, still⟩ := armed.keep kept
    refine ⟨before, milliseconds, later, rfl, by rw [clock], (still.wait_eq_none_iff _).mp ended, ?_⟩
    exact armed.isSome_keep_iff.mp (by rw [kept]; rfl)
  next =>
    rintro ⟨before, milliseconds, later, rfl, rfl, idle, recent⟩
    obtain ⟨between, kept⟩ := Option.isSome_iff_exists.mp (armed.isSome_keep_iff.mpr recent)
    obtain ⟨clock, still⟩ := armed.keep kept
    rw [← clock] at idle ⊢
    exact ⟨before, milliseconds, later, between, rfl, kept, (still.wait_eq_none_iff _).mpr idle, rfl⟩

end

end Vigil

namespace Session

def watchActs (session : Session) : Event -> List Watch.Act
  | .elapsed milliseconds => [.waits milliseconds]
  | event => if session.stirs event then [.touches] else []

def vigilActs (context : Context) : Session -> List Event -> List Watch.Act
  | _, [] => []
  | session, event :: later =>
      session.watchActs event ++
        ((session.step context event).map fun next => vigilActs context next later).getD []

section

variable {context : Context} {session last waiting : Session} {events : List Event} {clock : Nat}
  {splice : Splice} {ledger : Ledger} {watch : Watch}

theorem vigilActs_cons {next : Session} {event : Event}
    (stepped : session.step context event = some next) (events : List Event) :
    vigilActs context session (event :: events) =
      session.watchActs event ++ vigilActs context next events := by
  rw [vigilActs, stepped]
  rfl

theorem watchActs_of_part {event : Event} {source : Side} {move : Move}
    (part : event.part? = some (source, move)) :
    watchActs ⟨clock, .splicing splice, ledger⟩ event =
      if (splice.half source).isAlive move then [.touches] else [] := by
  rw [← stirs_of_part part]
  cases event with
  | elapsed => cases part
  | _ => rfl

theorem keep_of_run (watched : splice.watch = some watch)
    (ran : run context ⟨clock, .splicing splice, ledger⟩ events = some last)
    (going : last.result? = none) :
    ∃ spliced later, last.phase = .splicing spliced ∧ spliced.watch = some later ∧
      Vigil.keep ⟨clock, watch⟩ (vigilActs context ⟨clock, .splicing splice, ledger⟩ events) =
        some ⟨last.clock, later⟩ := by
  induction events generalizing clock splice ledger watch with
  | nil =>
    obtain rfl := Option.some.inj ran
    exact ⟨splice, watch, rfl, watched, rfl⟩
  | cons event events ih =>
    obtain ⟨next, stepped, ran⟩ := Option.bind_eq_some_iff.mp ran
    rw [vigilActs_cons stepped]
    cases advances_of_step stepped with
    | @moved _ source move half part half_stepped =>
      have later := watch_advance watched source half ((splice.half source).isAlive move) clock
      rw [watchActs_of_part part]
      by_cases alive : (splice.half source).isAlive move = true
      next =>
        rw [if_pos alive] at later ⊢
        exact ih later ran
      next =>
        rw [if_neg alive] at later ⊢
        exact ih later ran
    | @waited milliseconds rest looked =>
      cases rest with
      | none => simp [watched] at looked
      | some later =>
        rw [watched] at looked
        obtain ⟨spliced, final, phase, sees, kept⟩ := ih rfl ran
        refine ⟨spliced, final, phase, sees, ?_⟩
        simpa [watchActs, Vigil.keep, Vigil.step, Option.some.inj looked] using kept
    | completed | expired => cases result?_run ran going

end

end Session

namespace Scene

/-- The session ended well at a time, wants nothing and has let go of both sides. -/
structure Closed (scene : Scene) (summary : Summary) (now : Nat) : Prop where
  ended : scene.endedAt = some now
  result : scene.session.result? = some (.ok summary)
  unwanting : scene.session.wants scene.context = []
  -- No byte moves and neither side is shut any more, whatever may come: a session that is over has
  -- returned, and the two sockets that it owned went with it. That the peers of a scene see them
  -- closed is what `released` adds.
  silent : ∀ events last, scene.session.run scene.context events = some last →
    (∀ event ∈ events, event.waits = true) ∧ last.result? = some (.ok summary)
  client : scene.client.released = true
  backend : scene.backend.released = true

structure Watched (scene : Scene) (summary : Summary) (limit last : Nat) : Prop where
  going : scene.endedAt = none
  armed : ∃ splice watch, scene.session.phase = .splicing splice ∧ splice.watch = some watch ∧
    splice.summary = summary ∧ Vigil.Armed ⟨scene.session.clock, watch⟩ limit last

section

variable {scene : Scene} {summary : Summary} {limit last now : Nat}

theorem silent_of_over {context : Context} {clock : Nat} {ledger : Ledger}
    {events : List Session.Event} {last : Session}
    (ran : Session.run context ⟨clock, .over (.ok summary), ledger⟩ events = some last) :
    (∀ event ∈ events, event.waits = true) ∧ last.result? = some (.ok summary) := by
  obtain ⟨waits, phase⟩ := Session.run_over ran
  exact ⟨waits, Session.result?_eq_some_iff.mpr phase⟩

theorem Closed.jump (closed : scene.Closed summary now) (milliseconds : Nat) :
    (scene.jump milliseconds).Closed summary now ∧
      (scene.jump milliseconds).session.clock = scene.session.clock + milliseconds := by
  obtain ⟨setup, context, ⟨clock, phase, ledger⟩, client, backend, connected, endedAt⟩ := scene
  obtain ⟨rfl, result, -, -, here, there⟩ := closed
  obtain rfl : phase = .over (.ok summary) := Session.result?_eq_some_iff.mp result
  exact ⟨⟨rfl, rfl, rfl, fun _ _ ran => silent_of_over ran, here, there⟩, rfl⟩

theorem Closed.jumps (closed : scene.Closed summary now) (spans : List Nat) :
    (spans.foldl Scene.jump scene).Closed summary now ∧
      (spans.foldl Scene.jump scene).session.clock = scene.session.clock + spans.sum := by
  induction spans generalizing scene with
  | nil => exact ⟨closed, rfl⟩
  | cons span spans ih =>
    obtain ⟨closed, clock⟩ := closed.jump span
    obtain ⟨closed, later⟩ := ih closed
    refine ⟨closed, ?_⟩
    rw [List.foldl_cons, later, clock, List.sum_cons, Nat.add_assoc]

theorem Watched.jump (watched : scene.Watched summary limit last) (milliseconds : Nat) :
    (scene.jump milliseconds).session.clock = scene.session.clock + milliseconds ∧
      if scene.session.clock + milliseconds < last + limit then
        (scene.jump milliseconds).Watched summary limit last
      else (scene.jump milliseconds).Closed summary (scene.session.clock + milliseconds) := by
  obtain ⟨setup, context, ⟨clock, phase, ledger⟩, client, backend, connected, endedAt⟩ := scene
  obtain ⟨rfl, splice, watch, rfl, watched, rfl, armed⟩ := watched
  dsimp only at armed ⊢
  cases looked : watch.look (clock + milliseconds) with
  | none =>
    have idle : last + limit ≤ clock + milliseconds := by
      apply (armed.wait_eq_none_iff milliseconds).mp
      rw [Vigil.step, looked]
      rfl
    have rung : Session.ring context ⟨clock + milliseconds, .splicing splice, ledger⟩ =
        ⟨clock + milliseconds, .over (.ok splice.summary), ledger⟩ := by
      simp only [Session.ring, watched, looked]
      rfl
    have jumped : Scene.jump ⟨setup, context, ⟨clock, .splicing splice, ledger⟩, client, backend,
        connected, none⟩ milliseconds = ⟨setup, context,
          ⟨clock + milliseconds, .over (.ok splice.summary), ledger⟩, client.release,
          backend.release, connected, some (clock + milliseconds)⟩ :=
      congrArg (Scene.withSession _) rung
    rw [jumped, if_neg (Nat.not_lt_of_le idle)]
    exact ⟨rfl, rfl, rfl, rfl, fun _ _ ran => silent_of_over ran, rfl, rfl⟩
  | some later =>
    have waited : Vigil.step ⟨clock, watch⟩ (.waits milliseconds) =
        some ⟨clock + milliseconds, later⟩ := by
      rw [Vigil.step, looked]
      rfl
    have recent : clock + milliseconds < last + limit := by
      rw [← Nat.not_le, ← armed.wait_eq_none_iff, waited]
      exact Option.some_ne_none _
    have rung : Session.ring context ⟨clock + milliseconds, .splicing splice, ledger⟩ =
        ⟨clock + milliseconds, .splicing { splice with watch := some later }, ledger⟩ := by
      simp only [Session.ring, watched, looked]
    have jumped : Scene.jump ⟨setup, context, ⟨clock, .splicing splice, ledger⟩, client, backend,
        connected, none⟩ milliseconds = ⟨setup, context,
          ⟨clock + milliseconds, .splicing { splice with watch := some later }, ledger⟩, client,
          backend, connected, none⟩ :=
      congrArg (Scene.withSession _) rung
    rw [jumped, if_pos recent]
    exact ⟨rfl, rfl, _, later, rfl, rfl, rfl, (armed.wait waited).2⟩

theorem Watched.recent (watched : scene.Watched summary limit last) :
    scene.session.clock < last + limit := by
  obtain ⟨-, splice, watch, -, -, -, armed⟩ := watched
  exact armed.recent

/-- When only time passes, a splice goes on until its last sign of life is as old as the limit, and
is closed at the first time that the clock then shows. -/
def ClosesInTime (scene : Scene) (summary : Summary) (limit last : Nat) : Prop :=
  ∀ spans : List Nat,
    (spans.foldl Scene.jump scene).session.clock = scene.session.clock + spans.sum ∧
    (scene.session.clock + spans.sum < last + limit →
      (spans.foldl Scene.jump scene).Watched summary limit last) ∧
    (last + limit ≤ scene.session.clock + spans.sum → ∃ early span late,
      spans = early ++ span :: late ∧ scene.session.clock + early.sum < last + limit ∧
        last + limit ≤ scene.session.clock + early.sum + span ∧
          (spans.foldl Scene.jump scene).Closed summary (scene.session.clock + early.sum + span))

theorem Watched.closesInTime (watched : scene.Watched summary limit last) :
    scene.ClosesInTime summary limit last := by
  intro spans
  induction spans generalizing scene with
  | nil =>
    refine ⟨rfl, fun _ => watched, ?_⟩
    intro idle
    exact absurd idle (Nat.not_le_of_lt watched.recent)
  | cons span spans ih =>
    obtain ⟨clock, next⟩ := watched.jump span
    rw [List.foldl_cons, List.sum_cons, ← Nat.add_assoc, ← clock]
    by_cases recent : scene.session.clock + span < last + limit
    next =>
      rw [if_pos recent] at next
      obtain ⟨later, goes, ends⟩ := ih next
      refine ⟨later, goes, ?_⟩
      intro idle
      obtain ⟨early, last_span, late, rfl, before, reached, closed⟩ := ends idle
      refine ⟨span :: early, last_span, late, rfl, ?_⟩
      rw [List.sum_cons, ← Nat.add_assoc, ← clock]
      exact ⟨before, reached, closed⟩
    next =>
      rw [if_neg recent] at next
      obtain ⟨closed, later⟩ := next.jumps spans
      refine ⟨later, ?_, ?_⟩
      next =>
        intro within
        omega
      next =>
        intro
        exact ⟨[], span, spans, rfl, watched.recent, Nat.le_of_not_lt recent, closed⟩

end

end Scene

namespace Session

/-- A watch ends its splice exactly when the last sign of life is as old as the limit. However the
clock jumps and whatever stirs the splice while the watch sleeps, it never ends it before, and never
sleeps beyond that time. -/
theorem watch_ends_silence_in_time (limit : Nat) (positive : 0 < limit) :
    (∀ now acts,
      (∀ vigil, (Vigil.start limit now).keep acts = some vigil →
        vigil.clock = Vigil.after now acts ∧
          vigil.Armed limit (Vigil.lastTouch now now acts)) ∧
      ∀ ended, (Vigil.start limit now).end? acts = some ended ↔
        ∃ before milliseconds later, acts = before ++ .waits milliseconds :: later ∧
          ended = Vigil.after now before + milliseconds ∧
          Vigil.lastTouch now now before + limit ≤ ended ∧
          ∀ earlier span rest, before = earlier ++ .waits span :: rest →
            Vigil.after now earlier + span < Vigil.lastTouch now now earlier + limit) ∧
    (∀ vigil act next, Vigil.step vigil act = some next → vigil.watch.last ≤ next.watch.last) ∧
    ∀ (context : Context) (session : Session) (replaying : Replaying) (events : List Event)
        (waiting : Session), context.service.idleLimit = some limit →
      run context (session.splice context replaying) events = some waiting →
      waiting.result? = none →
      ∃ splice watch, waiting.phase = .splicing splice ∧ splice.watch = some watch ∧
        (Vigil.start limit session.clock).keep
            (vigilActs context (session.splice context replaying) events) =
          some ⟨waiting.clock, watch⟩ ∧
        ∀ scene : Scene, scene.session = waiting → scene.endedAt = none →
          scene.ClosesInTime splice.summary limit (Vigil.lastTouch session.clock session.clock
            (vigilActs context (session.splice context replaying) events)) := by
  refine ⟨?_, fun _ _ _ stepped => Vigil.last_le_step stepped, ?_⟩
  next =>
    intro now acts
    have armed := Vigil.armed_start positive now
    exact ⟨fun vigil kept => armed.keep kept, fun ended => armed.end?_iff⟩
  next =>
    intro context session replaying events waiting limited ran going
    obtain ⟨splice, begun, new, watched, -⟩ := splice_eq context session replaying
    rw [limited, Option.map_some] at watched
    obtain ⟨spliced, watch, phase, sees, kept⟩ := keep_of_run watched (begun ▸ ran) going
    rw [← begun] at kept
    refine ⟨spliced, watch, phase, sees, kept, ?_⟩
    rintro scene rfl open_
    obtain ⟨-, armed⟩ := (Vigil.armed_start positive session.clock).keep kept
    exact Scene.Watched.closesInTime ⟨open_, spliced, watch, phase, sees, rfl, armed⟩

-- The client sends something while the watch sleeps, which wakes at 100 and has to sleep again.
def stirredStart : List Event := [.elapsed 60, .received .client [1], .elapsed 70]

theorem stirredStart_closes_in_time : ∃ waiting,
    run watchedContext watchedSplice stirredStart = some waiting ∧ 0 < 100 ∧
    ∀ scene : Scene, scene.session = waiting → scene.endedAt = none →
      ∃ summary, ([20, 50, 40].foldl Scene.jump scene).Closed summary 200 := by
  obtain ⟨waiting, ran, going, clock⟩ : ∃ waiting,
      run watchedContext watchedSplice stirredStart = some waiting ∧ waiting.result? = none ∧
        waiting.clock = 130 := ⟨_, rfl, rfl, rfl⟩
  obtain ⟨-, -, splices⟩ := watch_ends_silence_in_time 100 (by decide)
  obtain ⟨splice, watch, phase, -, kept, closes⟩ :=
    splices watchedContext (start watchedContext 0) ⟨"a", .v4 ⟨1⟩ 443, []⟩ stirredStart waiting rfl
      ran going
  refine ⟨waiting, ran, by decide, ?_⟩
  rintro scene rfl going
  obtain ⟨-, -, ends⟩ := closes scene rfl going [20, 50, 40]
  rw [clock] at ends
  obtain ⟨early, span, late, split, before, reached, closed⟩ := ends (by decide)
  have before : 130 + early.sum < 160 := before
  have reached : 160 ≤ 130 + early.sum + span := reached
  have second : early = [20] ∧ span = 50 := by
    rcases early with _ | ⟨first, _ | ⟨other, rest⟩⟩ <;>
      simp only [List.nil_append, List.cons_append, List.cons.injEq, List.sum_cons,
        List.sum_nil] at split before reached <;>
      simp <;> omega
  obtain ⟨rfl, rfl⟩ := second
  exact ⟨_, closed⟩

end Session

end SniffingRelay
