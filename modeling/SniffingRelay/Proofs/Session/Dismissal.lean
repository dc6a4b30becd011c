import Mathlib.Algebra.Ring.Nat
import SniffingRelay.Proofs.Session.Voice

set_option autoImplicit false

namespace SniffingRelay

namespace Failure

-- The name that was asked for leads nowhere.
def blamesName : Failure -> Bool
  | .hello (.unsupportedNameType _) | .missingHostname | .notPermitted _ | .dial _ _ => true
  | _ => false

def blamesBackend : Failure -> Bool
  | .dial _ _ | .replay _ _ => true
  | _ => false

theorem rejection_tls (failure : Failure) :
    failure.rejection .tls = [21, 3, 1, 0, 2, 2, if failure.blamesName then 112 else 80] := by
  cases failure with
  | hello cause => cases cause <;> rfl
  | _ => rfl

theorem rejection_http (failure : Failure) : failure.rejection .http =
    (if failure.blamesBackend then serviceUnavailable else badRequest).toUTF8.data.toList := by
  cases failure with
  | hello cause => cases cause <;> rfl
  | _ => rfl

theorem rejection_ne_nil (failure : Failure) (protocol : Protocol) :
    failure.rejection protocol ≠ [] := by
  cases protocol with
  | tls => exact List.cons_ne_nil _ _
  | http =>
    rw [rejection_http]
    split <;> decide +kernel

end Failure

namespace Session

def Event.span : Event -> Nat
  | .elapsed milliseconds => milliseconds
  | _ => 0

def duration (events : List Event) : Nat := (events.map Event.span).sum

def delay (events : List Event) : Nat := duration (events.takeWhile (!·.shuts .client))

theorem duration_append (events later : List Event) :
    duration (events ++ later) = duration events + duration later := by
  rw [duration, List.map_append, List.sum_append]
  rfl

theorem duration_cons (event : Event) (later : List Event) :
    duration (event :: later) = event.span + duration later := by
  rw [duration, List.map_cons, List.sum_cons]
  rfl

theorem delay_le_duration (events : List Event) : delay events ≤ duration events := by
  have sum := duration_append (events.takeWhile (!·.shuts .client))
    (events.dropWhile (!·.shuts .client))
  rw [List.takeWhile_append_dropWhile] at sum
  exact sum ▸ Nat.le_add_right _ _

theorem delay_eq_duration {events : List Event}
    (unshut : ∀ event ∈ events, event.shuts .client = false) : delay events = duration events := by
  have all : events.takeWhile (!·.shuts .client) = events := by
    have longer : (events ++ []).takeWhile (!·.shuts .client) = events ++ [] :=
      List.takeWhile_append_of_pos (by simpa using unshut)
    rwa [List.append_nil] at longer
  rw [delay, all]

theorem delay_le_append (events later : List Event) : delay events ≤ delay (events ++ later) := by
  induction events with
  | nil => exact Nat.zero_le _
  | cons event events ih =>
    rw [delay, delay, List.cons_append, List.takeWhile_cons, List.takeWhile_cons]
    split
    next =>
      rw [duration_cons, duration_cons]
      exact Nat.add_le_add_left ih _
    next => exact Nat.le_refl _

section

variable {context : Context}

theorem clock_route (session : Session) (result : Except Failure String) :
    (session.route context result).clock = session.clock := by
  unfold route
  split
  next => rfl
  next =>
    split
    next => rfl
    next =>
      split
      next =>
        unfold dial
        dsimp only
        split <;> rfl
      next => rfl

theorem clock_tryNext (session : Session) (dialing : Dialing) (deadline : Nat) (error : DialError)
    (targets : List SocketAddress) :
    (session.tryNext context dialing deadline error targets).clock = session.clock := by
  cases targets <;> rfl

theorem clock_settle (session : Session) (splice : Splice) :
    (session.settle splice).clock = session.clock := by
  unfold settle
  split <;> rfl

theorem clock_ring (session : Session) : (session.ring context).clock = session.clock := by
  unfold ring
  split
  case h_4 =>
    split
    next => rfl
    next => split <;> rfl
  case h_5 | h_6 => rfl
  all_goals split <;> rfl

theorem Moves.span {source : Side} {half next : Half} {event : Event} {alive : Bool}
    (moves : Moves source half event alive next) : event.span = 0 := by
  cases moves <;> rfl

theorem Transition.clock {session next : Session} {event : Event}
    (stepped : Transition context session event next) :
    next.clock = session.clock + event.span := by
  cases stepped with
  | sniffed | clientFailed | clientEnded => exact clock_route ..
  | resolved | refused => exact clock_tryNext ..
  | moved moves => rw [clock_settle, moves.span, Nat.add_zero]
  | elapsed => exact clock_ring _
  | _ => rfl

theorem clock_run {session last : Session} {events : List Event}
    (ran : run context session events = some last) :
    last.clock = session.clock + duration events := by
  induction events generalizing session with
  | nil => exact Option.some.inj ran ▸ rfl
  | cons event events ih =>
    obtain ⟨next, stepped, ran⟩ := Option.bind_eq_some_iff.mp ran
    rw [ih ran, (transition_of_step stepped).clock, duration_cons, Nat.add_assoc]

end

-- All of a rejection is still to be sent, and all of the time for it is left.
def Dismisses (context : Context) (failure : Failure) (session : Session) : Prop :=
  session.phase = .rejecting failure (.sending (failure.rejection context.service.protocol))
    (session.clock + rejectionLimit)

section

variable {context : Context} {session last : Session} {events : List Event}

theorem unsettled_or_dismisses_route (session : Session) (result : Except Failure String) :
    (session.route context result).voice? = none ∨
      ∃ failure, Dismisses context failure (session.route context result) := by
  unfold route
  split
  next => exact .inr ⟨_, rfl⟩
  next =>
    split
    next => exact .inr ⟨_, rfl⟩
    next =>
      split
      next =>
        unfold dial
        dsimp only
        split
        next => exact .inr ⟨_, rfl⟩
        next => exact .inl rfl
      next => exact .inr ⟨_, rfl⟩

theorem unsettled_or_dismisses_tryNext (session : Session) (dialing : Dialing) (deadline : Nat)
    (error : DialError) (targets : List SocketAddress) :
    (session.tryNext context dialing deadline error targets).voice? = none ∨
      ∃ failure, Dismisses context failure
        (session.tryNext context dialing deadline error targets) := by
  cases targets with
  | nil => exact .inr ⟨_, rfl⟩
  | cons => exact .inl rfl

theorem unsettled_or_dismisses_ring (unsettled : session.voice? = none) :
    (session.ring context).voice? = none ∨
      ∃ failure, Dismisses context failure (session.ring context) := by
  obtain ⟨clock, phase, ledger⟩ := session
  unfold ring
  cases phase with
  | sniffing | dialing =>
    dsimp only
    split
    next => exact .inl rfl
    next => exact .inr ⟨_, rfl⟩
  | replaying => exact .inl rfl
  | splicing | rejecting => cases unsettled
  | «over» result => cases result <;> cases unsettled

theorem Transition.dismisses {next : Session} {event : Event}
    (stepped : Transition context session event next) (before : session.voice? ≠ some .relay)
    (after : next.voice? = some .relay) : ∃ failure, Dismisses context failure next := by
  have settled (either : next.voice? = none ∨ ∃ failure, Dismisses context failure next) :
      ∃ failure, Dismisses context failure next := by
    apply either.resolve_left
    rw [after]
    nofun
  cases stepped with
  | sniffed | clientFailed | clientEnded => exact settled (unsettled_or_dismisses_route _ _)
  | unresolved | replayFailed => exact ⟨_, rfl⟩
  | resolved | refused => exact settled (unsettled_or_dismisses_tryNext _ _ _ _ _)
  | rejecting | rejected | rejectionFlushed | rejectionShut | rejectionFailed =>
    exact absurd rfl before
  | moved =>
    rw [voice?_settle] at after
    cases after
  | @elapsed clock milliseconds phase ledger =>
    cases spoken : Session.voice? ⟨clock + milliseconds, phase, ledger⟩ with
    | none => exact settled (unsettled_or_dismisses_ring spoken)
    | some voice =>
      rw [voice?_ring spoken] at after
      exact absurd (spoken.trans after) before
  | read | interrupted | connected | replaying | replayed => cases after

theorem exists_dismissal (ran : run context session events = some last)
    (before : session.voice? ≠ some .relay) (after : last.voice? = some .relay) :
    ∃ early late rejected failure, events = early ++ late ∧
      run context session early = some rejected ∧ Dismisses context failure rejected ∧
        run context rejected late = some last := by
  induction events generalizing session with
  | nil => exact absurd (Option.some.inj ran ▸ after) before
  | cons event events ih =>
    obtain ⟨next, stepped, ran⟩ := Option.bind_eq_some_iff.mp ran
    by_cases spoken : next.voice? = some .relay
    next =>
      obtain ⟨failure, dismisses⟩ := (transition_of_step stepped).dismisses before spoken
      exact ⟨[event], events, next, failure, rfl, by simp [run, stepped], dismisses, ran⟩
    next =>
      obtain ⟨early, late, rejected, failure, rfl, began, dismisses, ended⟩ := ih ran spoken
      exact ⟨event :: early, late, rejected, failure, rfl, by simp [run, stepped, began], dismisses,
        ended⟩

end

-- Time goes on, and the client was not told yet that no more bytes come.
structure Dismissing (began : Nat) (events : List Event) (clock deadline : Nat) : Prop where
  due : deadline = began + rejectionLimit
  spent : clock = began + duration events
  unshut : ∀ event ∈ events, event.shuts .client = false

inductive Dismissed (context : Context) (failure : Failure) (events : List Event) (ledger : Ledger) :
    Prop where
  | broken (fault : Fault) (failed : .writeFailed .client fault ∈ events) :
      Dismissed context failure events ledger
  | late (late : rejectionLimit ≤ delay events) : Dismissed context failure events ledger
  | complete
      (all : (ledger.traffic .client).told.toList = failure.rejection context.service.protocol)
      (last : ShutLast .client events) : Dismissed context failure events ledger

def Dismissal (context : Context) (failure : Failure) (began : Nat) (events : List Event)
    (session : Session) : Prop :=
  match session.phase with
  | .rejecting reason _ deadline =>
      reason = failure ∧ Dismissing began events session.clock deadline
  | .over (.error reason) => reason = failure ∧ Dismissed context failure events session.ledger
  | _ => False

section

variable {context : Context} {failure : Failure} {began : Nat} {session : Session}
  {events before : List Event} {ledger : Ledger}

theorem Dismissing.later {clock deadline : Nat} (dismissing : Dismissing began events clock deadline)
    {event : Event} (unshut : event.shuts .client = false) :
    Dismissing began (events ++ [event]) (clock + event.span) deadline where
  due := dismissing.due
  spent := by
    rw [dismissing.spent, duration_append, Nat.add_assoc]
    rfl
  unshut other found := by
    rcases List.mem_append.mp found with found | found
    next => exact dismissing.unshut other found
    next => exact List.mem_singleton.mp found ▸ unshut

theorem Dismissed.later (dismissed : Dismissed context failure events ledger) {event : Event}
    (untaken : ∀ count, event ≠ .accepted .client count) :
    Dismissed context failure (events ++ [event]) ledger := by
  cases dismissed with
  | broken fault failed => exact .broken fault (List.mem_append_left _ failed)
  | late late => exact .late (Nat.le_trans late (delay_le_append ..))
  | complete all last => exact .complete all (last.later untaken)

theorem Dismissal.ring (dismissal : Dismissal context failure began events session) :
    Dismissal context failure began events (session.ring context) := by
  obtain ⟨clock, phase, ledger⟩ := session
  unfold Session.ring
  cases phase with
  | rejecting reason stage deadline =>
    obtain ⟨same, dismissing⟩ := dismissal
    dsimp only
    split
    next => exact ⟨same, dismissing⟩
    next missed =>
      refine ⟨same, .late ?_⟩
      have due := dismissing.due
      have spent := dismissing.spent
      rw [delay_eq_duration dismissing.unshut]
      dsimp only at spent
      omega
  | «over» => exact dismissal
  | sniffing | dialing | replaying | splicing => exact dismissal.elim

theorem Dismissal.elapsed {clock : Nat} {phase : Phase}
    (dismissal : Dismissal context failure began events ⟨clock, phase, ledger⟩) (milliseconds : Nat) :
    Dismissal context failure began (events ++ [.elapsed milliseconds])
      ⟨clock + milliseconds, phase, ledger⟩ := by
  cases phase with
  | rejecting => exact ⟨dismissal.1, dismissal.2.later rfl⟩
  | «over» result =>
    cases result with
    | error => exact ⟨dismissal.1, dismissal.2.later nofun⟩
    | ok => exact dismissal.elim
  | sniffing | dialing | replaying | splicing => exact dismissal.elim

theorem Dismissal.transition {next : Session} {event : Event}
    (dismissal : Dismissal context failure began events session)
    (flow : Flow context (before ++ events) session)
    (stepped : Transition context session event next) :
    Dismissal context failure began (events ++ [event]) next := by
  -- What was told counts only at the end; the flow of bytes has kept account of it until then.
  cases stepped with
  | rejecting | rejected | rejectionFlushed => exact ⟨dismissal.1, dismissal.2.later rfl⟩
  | @rejectionShut _ _ _ ledger =>
    obtain ⟨rfl, -⟩ := dismissal
    have reply : (ledger.traffic .client).told.toList ++ [] = _ := Refuses.reply flow
    rw [List.append_nil] at reply
    exact ⟨rfl, .complete reply ⟨events, [], rfl, nofun⟩⟩
  | rejectionFailed =>
    exact ⟨dismissal.1, .broken _ (List.mem_append_right _ (List.mem_singleton_self _))⟩
  | elapsed => exact (Dismissal.elapsed dismissal _).ring
  | read | sniffed | interrupted | clientFailed | clientEnded | unresolved | resolved | refused
    | connected | replaying | replayed | replayFailed | moved => exact dismissal.elim

theorem dismissal_run {rejected : Session} (flow : Flow context before rejected)
    (dismisses : Dismisses context failure rejected)
    (ran : run context rejected events = some session) :
    Dismissal context failure rejected.clock events session := by
  have initially : Flow context (before ++ []) rejected ∧
      Dismissal context failure rejected.clock [] rejected := by
    refine ⟨(List.append_nil before).symm ▸ flow, ?_⟩
    rw [Dismissal, dismisses]
    exact ⟨rfl, rfl, rfl, nofun⟩
  have both := run_preserves
    (fun history session => Flow context (before ++ history) session ∧
      Dismissal context failure rejected.clock history session)
    (fun _ _ _ _ holds stepped =>
      ⟨List.append_assoc .. ▸ holds.1.transition stepped, holds.2.transition holds.1 stepped⟩)
    initially ran
  exact both.2

end

def Event.waits : Event -> Bool
  | .elapsed _ => true
  | _ => false

def answers (events : List Event) : List Event := events.filter (!·.waits)

/-- A client takes bytes, in pieces, and then their end, before the time for that is over. -/
def Takes (bytes : List UInt8) (events : List Event) : Prop :=
  duration events < rejectionLimit ∧ ∃ counts : List Nat, (∀ count ∈ counts, 0 < count) ∧
    counts.sum = bytes.length ∧
      answers events = counts.map (.accepted .client) ++ [.flushed, .shut .client]

section

variable {context : Context} {failure : Failure} {clock deadline : Nat} {ledger : Ledger}
  {events : List Event}

-- Time alone changes nothing as long as no alarm rings.
theorem run_waits {phase : Phase} (waits : ∀ event ∈ events, event.waits = true)
    (still : ∀ later, later ≤ clock + duration events →
      ring context ⟨later, phase, ledger⟩ = ⟨later, phase, ledger⟩) :
    run context ⟨clock, phase, ledger⟩ events = some ⟨clock + duration events, phase, ledger⟩ := by
  induction events generalizing clock with
  | nil => rfl
  | cons event events ih =>
    rw [duration_cons, ← Nat.add_assoc] at still ⊢
    cases event with
    | elapsed milliseconds =>
      have stepped : step context ⟨clock, phase, ledger⟩ (.elapsed milliseconds) =
          some ⟨clock + milliseconds, phase, ledger⟩ :=
        congrArg some (still (clock + milliseconds) (Nat.le_add_right _ _))
      rw [run, stepped]
      exact ih (fun other found => waits other (List.mem_cons_of_mem _ found)) still
    | _ => exact absurd (waits _ (List.mem_cons_self ..)) Bool.false_ne_true

theorem run_over {result : Except Failure Summary} {last : Session}
    (ran : run context ⟨clock, .over result, ledger⟩ events = some last) :
    (∀ event ∈ events, event.waits = true) ∧ last.phase = .over result := by
  induction events generalizing clock with
  | nil => exact ⟨nofun, Option.some.inj ran ▸ rfl⟩
  | cons event events ih =>
    obtain ⟨next, stepped, ran⟩ := Option.bind_eq_some_iff.mp ran
    cases event with
    | elapsed milliseconds =>
      cases stepped
      obtain ⟨waits, phase⟩ := ih ran
      exact ⟨List.forall_mem_cons.mpr ⟨rfl, waits⟩, phase⟩
    | _ => cases stepped

theorem ring_rejecting {stage : RejectionStage} (inTime : clock < deadline) :
    ring context ⟨clock, .rejecting failure stage deadline, ledger⟩ =
      ⟨clock, .rejecting failure stage deadline, ledger⟩ :=
  if_pos inTime

theorem ring_rejecting_late {stage : RejectionStage} (late : ¬clock < deadline) :
    ring context ⟨clock, .rejecting failure stage deadline, ledger⟩ =
      ⟨clock, .over (.error failure), ledger⟩ :=
  if_neg late

theorem rejecting_run {stage : RejectionStage} {last : Session} (inTime : clock < deadline)
    (ran : run context ⟨clock, .rejecting failure stage deadline, ledger⟩ events = some last) :
    last.phase = .over (.error failure) ∨
      ∃ stage, last.phase = .rejecting failure stage deadline ∧ last.clock < deadline := by
  induction events generalizing clock stage ledger with
  | nil =>
    obtain rfl := Option.some.inj ran
    exact .inr ⟨stage, rfl, inTime⟩
  | cons event events ih =>
    obtain ⟨next, stepped, ran⟩ := Option.bind_eq_some_iff.mp ran
    cases transition_of_step stepped with
    | rejecting | rejected | rejectionFlushed => exact ih inTime ran
    | rejectionShut | rejectionFailed => exact .inl (run_over ran).2
    | @elapsed _ milliseconds =>
      by_cases early : clock + milliseconds < deadline
      next =>
        rw [ring_rejecting early] at ran
        exact ih early ran
      next =>
        rw [ring_rejecting_late early] at ran
        exact .inl (run_over ran).2

theorem run_answer {stage : RejectionStage} {answer : Event} {rest : List Event} {phase : Phase}
    {ledger' : Ledger} (answered : answers events = answer :: rest)
    (inTime : clock + duration events < deadline)
    (stepped : ∀ clock, step context ⟨clock, .rejecting failure stage deadline, ledger⟩ answer =
      some ⟨clock, phase, ledger'⟩) :
    ∃ clock' later, answers later = rest ∧ clock' + duration later < deadline ∧
      run context ⟨clock, .rejecting failure stage deadline, ledger⟩ events =
        run context ⟨clock', phase, ledger'⟩ later := by
  obtain ⟨front, later, rfl, waits, -, rest⟩ := List.filter_eq_cons_iff.mp answered
  rw [duration_append, duration_cons] at inTime
  refine ⟨clock + duration front, later, rest, by omega, ?_⟩
  have waited : run context ⟨clock, .rejecting failure stage deadline, ledger⟩ front =
      some ⟨clock + duration front, .rejecting failure stage deadline, ledger⟩ := by
    apply run_waits
    next => simpa using waits
    next =>
      intro later soon
      exact ring_rejecting (by omega)
  rw [run_append, waited, Option.bind_some, run, stepped]
  rfl

theorem run_shutting (answered : answers events = [.shut .client])
    (inTime : clock + duration events < deadline) :
    ∃ last, run context ⟨clock, .rejecting failure .shutting deadline, ledger⟩ events = some last ∧
      last.result? = some (.error failure) := by
  have stepped (clock : Nat) :
      step context ⟨clock, .rejecting failure .shutting deadline, ledger⟩ (.shut .client) =
        some ⟨clock, .over (.error failure), ledger.shut .client⟩ := rfl
  obtain ⟨clock', later, rest, -, same⟩ := run_answer answered inTime stepped
  have waits : ∀ event ∈ later, event.waits = true := by
    simpa using List.filter_eq_nil_iff.mp rest
  rw [same, run_waits waits fun _ _ => rfl]
  exact ⟨_, rfl, rfl⟩

theorem run_flushing (answered : answers events = [.flushed, .shut .client])
    (inTime : clock + duration events < deadline) :
    ∃ last, run context ⟨clock, .rejecting failure .flushing deadline, ledger⟩ events = some last ∧
      last.result? = some (.error failure) := by
  have stepped (clock : Nat) :
      step context ⟨clock, .rejecting failure .flushing deadline, ledger⟩ .flushed =
        some ⟨clock, .rejecting failure .shutting deadline, ledger⟩ := rfl
  obtain ⟨clock', later, rest, inTime, same⟩ := run_answer answered inTime stepped
  rw [same]
  exact run_shutting rest inTime

theorem step_accepted_rejecting {unsent : List UInt8} {count : Nat} (some_taken : 0 < count)
    (fits : count ≤ unsent.length) (clock : Nat) :
    step context ⟨clock, .rejecting failure (.sending unsent) deadline, ledger⟩
        (.accepted .client count) =
      some ⟨clock, .rejecting failure
          (if unsent.drop count = [] then .flushing else .sending (unsent.drop count)) deadline,
        ledger.tell .client (unsent.take count)⟩ := by
  have within : ¬(count = 0 ∨ unsent.length < count) := by omega
  simp only [step, onAccepted, if_neg within]
  split
  next all => rw [if_pos all]
  next some_left => rw [if_neg some_left]

theorem run_sending {unsent : List UInt8} {counts : List Nat} (some_left : unsent ≠ [])
    (positive : ∀ count ∈ counts, 0 < count) (fits : counts.sum = unsent.length)
    (answered : answers events = counts.map (.accepted .client) ++ [.flushed, .shut .client])
    (inTime : clock + duration events < deadline) :
    ∃ last, run context ⟨clock, .rejecting failure (.sending unsent) deadline, ledger⟩ events =
        some last ∧ last.result? = some (.error failure) := by
  -- The last count empties what is unsent, and after that no count is left.
  induction counts generalizing clock unsent ledger events with
  | nil => exact absurd (List.length_eq_zero_iff.mp fits.symm) some_left
  | cons count counts ih =>
    rw [List.sum_cons] at fits
    have some_taken := positive count (List.mem_cons_self ..)
    have positive : ∀ count ∈ counts, 0 < count :=
      fun other found => positive other (List.mem_cons_of_mem _ found)
    have stepped (clock : Nat) :
        step context ⟨clock, .rejecting failure (.sending unsent) deadline, ledger⟩
          (.accepted .client count) = _ :=
      step_accepted_rejecting some_taken (fits ▸ Nat.le_add_right _ _) clock
    obtain ⟨clock', later, rest, inTime, same⟩ := run_answer answered inTime stepped
    rw [same]
    have length := List.length_drop (i := count) (l := unsent)
    split
    next all =>
      rw [all, List.length_nil] at length
      obtain rfl : counts = [] := by
        cases counts with
        | nil => rfl
        | cons other counts =>
          have another := positive other (List.mem_cons_self ..)
          rw [List.sum_cons] at fits
          omega
      exact run_flushing rest inTime
    next more => exact ih more positive (by omega) rest inTime

theorem Takes.run {rejected : Session} (dismisses : Dismisses context failure rejected)
    (takes : Takes (failure.rejection context.service.protocol) events) :
    ∃ last, run context rejected events = some last ∧ last.result? = some (.error failure) := by
  obtain ⟨inTime, counts, positive, fits, answered⟩ := takes
  obtain ⟨clock, phase, ledger⟩ := rejected
  obtain rfl : phase = .rejecting failure (.sending (failure.rejection _)) (clock + rejectionLimit) :=
    dismisses
  exact run_sending (failure.rejection_ne_nil _) positive fits answered (Nat.add_lt_add_left inTime _)

end

end Session

end SniffingRelay
