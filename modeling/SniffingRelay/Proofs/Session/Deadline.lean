import SniffingRelay.Proofs.Session.Delimiting
import SniffingRelay.Proofs.Session.Visiting

set_option autoImplicit false

namespace SniffingRelay.Session

def Visit.Leaves (context : Context) (visit : Visit) (acts : List Visit.Act)
    (outcome : Except Failure String) (earlier : Nat) (left : Session) : Prop :=
  ∃ before event after between, acts = before ++ .meets event :: after ∧
    visit.run context before = some between ∧ between.session.isSniffing = true ∧
      between.session.clock = earlier ∧
        between.session.step context event = some (left.route context outcome)

def timeout (context : Context) : Failure :=
  .sniffTimeout (.ofMilliseconds context.service.sniffLimit)

-- What has become of sniffing since a time: it goes on, it has come to a verdict, or the deadline
-- has passed.
inductive Fate (context : Context) (visit : Visit) (clock deadline : Nat)
    (verdict? : Nat -> Option (Except Failure String)) (acts : List Visit.Act) (last : Visit) :
    Prop where
  | goes (sniffing : last.session.isSniffing = true) (inTime : last.session.clock < deadline)
      (undecided : last.isCaughtUp = true → verdict? (deadline - clock) = none) :
      Fate context visit clock deadline verdict? acts last
  | decided {outcome : Except Failure String} {left : Session}
      (ended : last.session.isSniffing = false)
      (leaves : visit.Leaves context acts outcome left.clock left) (since : clock ≤ left.clock)
      (inTime : left.clock < deadline)
      (soonest : ∀ limit, 0 < limit → limit ≤ deadline - clock →
        verdict? limit = if left.clock < clock + limit then some outcome else none) :
      Fate context visit clock deadline verdict? acts last
  | late {earlier : Nat} {left : Session} (ended : last.session.isSniffing = false)
      (leaves : visit.Leaves context acts (.error (timeout context)) earlier left)
      (inTime : earlier < deadline) (late : deadline ≤ left.clock)
      (undecided : verdict? (deadline - clock) = none) :
      Fate context visit clock deadline verdict? acts last

section

variable {context : Context} {visit next last : Visit} {act : Visit.Act} {acts : List Visit.Act}
  {clock deadline : Nat}

theorem Visit.Leaves.cons {outcome : Except Failure String} {earlier : Nat} {left : Session}
    (leaves : next.Leaves context acts outcome earlier left)
    (stepped : visit.step context act = some next) :
    visit.Leaves context (act :: acts) outcome earlier left := by
  obtain ⟨before, event, after, between, rfl, began, rest⟩ := leaves
  refine ⟨act :: before, event, after, between, rfl, ?_, rest⟩
  rw [Visit.run, stepped]
  exact began

theorem Fate.cons {verdict? later? : Nat -> Option (Except Failure String)}
    (stepped : visit.step context act = some next) (inTime : clock + act.span < deadline)
    (agree : ∀ limit, 0 < limit →
      verdict? limit = if limit ≤ act.span then none else later? (limit - act.span))
    (fate : Fate context next (clock + act.span) deadline later? acts last) :
    Fate context visit clock deadline verdict? (act :: acts) last := by
  have rest : verdict? (deadline - clock) = later? (deadline - (clock + act.span)) := by
    rw [agree _ (by omega), if_neg (by omega), Nat.sub_sub]
  cases fate with
  | goes sniffing inTime undecided =>
    exact .goes sniffing inTime fun caught_up => rest.trans (undecided caught_up)
  | decided ended leaves since inTime soonest =>
    refine .decided ended (leaves.cons stepped) (by omega) inTime ?_
    intro limit positive within
    rw [agree limit positive]
    by_cases past : limit ≤ act.span
    next => rw [if_pos past, if_neg (by omega)]
    next =>
      have sum : clock + act.span + (limit - act.span) = clock + limit := by omega
      rw [if_neg past, soonest _ (by omega) (by omega), sum]
  | late ended leaves inTime late undecided =>
    exact .late ended (leaves.cons stepped) inTime late (rest.trans undecided)

theorem Fate.still {verdict? later? : Nat -> Option (Except Failure String)}
    (stepped : visit.step context act = some next) (instant : act.span = 0)
    (inTime : clock < deadline) (agree : ∀ limit, 0 < limit → verdict? limit = later? limit)
    (fate : Fate context next clock deadline later? acts last) :
    Fate context visit clock deadline verdict? (act :: acts) last := by
  refine .cons stepped (by rwa [instant]) ?_ (by rwa [instant])
  intro limit positive
  rw [instant, if_neg (Nat.not_le_of_gt positive), agree limit positive, Nat.sub_zero]

theorem verdict?_cons {limit : Nat} (positive : 0 < limit) (visit : Visit) (sniffer : Sniffer)
    (act : Visit.Act) (acts : List Visit.Act) :
    visit.verdict? sniffer limit (act :: acts) =
      sniffer.verdict?
        (visit.underway ++ (act.sent ++ Visit.sent (Visit.early (limit - act.span) acts)))
        (visit.stop?.or (act.stop?.or (Visit.stopIn? (Visit.early (limit - act.span) acts)))) := by
  rw [Visit.verdict?, Visit.early_cons positive, Visit.sent_cons, Visit.stopIn?_cons]

theorem verdict?_sends {bytes : List UInt8} {limit : Nat} (positive : 0 < limit) (visit : Visit)
    (sniffer : Sniffer) (acts : List Visit.Act) :
    visit.verdict? sniffer limit (.sends bytes :: acts) =
      { visit with underway := visit.underway ++ bytes }.verdict? sniffer limit acts := by
  rw [verdict?_cons positive, ← List.append_assoc]
  rfl

theorem verdict?_stops {stop : Stop} {limit : Nat} (positive : 0 < limit)
    (going : visit.stop? = none) (sniffer : Sniffer) (acts : List Visit.Act) :
    visit.verdict? sniffer limit (.stops stop :: acts) =
      { visit with stop? := some stop }.verdict? sniffer limit acts := by
  rw [verdict?_cons positive, going]
  rfl

end

section

variable {context : Context} {last next : Visit} {acts : List Visit.Act} {clock deadline : Nat}
  {sniffer : Sniffer} {ledger : Ledger} {underway : List UInt8} {stop? : Option Stop}

theorem isSniffing_route (session : Session) (outcome : Except Failure String) :
    (session.route context outcome).isSniffing = false := by
  unfold route
  split
  next => rfl
  next =>
    split
    next => rfl
    next =>
      split
      next =>
        unfold dial
        dsimp only
        split <;> rfl
      next => rfl

theorem isSniffing_tryNext (session : Session) (dialing : Dialing) (deadline : Nat)
    (error : DialError) (targets : List SocketAddress) :
    (session.tryNext context dialing deadline error targets).isSniffing = false := by
  cases targets <;> rfl

theorem isSniffing_ring (session : Session) (sniffing : (session.ring context).isSniffing = true) :
    session.isSniffing = true := by
  obtain ⟨clock, phase, ledger⟩ := session
  cases phase with
  | sniffing => rfl
  | dialing | rejecting =>
    simp only [ring] at sniffing
    split at sniffing <;> cases sniffing
  | splicing =>
    simp only [ring] at sniffing
    split at sniffing
    next => cases sniffing
    next => split at sniffing <;> cases sniffing
  | replaying | «over» => cases sniffing

theorem Transition.isSniffing {session next : Session} {event : Event}
    (stepped : Transition context session event next) (sniffing : next.isSniffing = true) :
    session.isSniffing = true := by
  cases stepped with
  | read | sniffed | interrupted | clientFailed | clientEnded => rfl
  | resolved | refused =>
    rw [isSniffing_tryNext] at sniffing
    cases sniffing
  | moved =>
    unfold settle at sniffing
    split at sniffing <;> cases sniffing
  | elapsed =>
    have before := isSniffing_ring _ sniffing
    exact before
  | unresolved | connected | replaying | replayed | replayFailed | rejecting | rejected
    | rejectionFlushed | rejectionShut | rejectionFailed => cases sniffing

theorem isSniffing_run {session last : Session} {events : List Event}
    (ran : run context session events = some last) (ended : session.isSniffing = false) :
    last.isSniffing = false := by
  induction events generalizing session with
  | nil => exact Option.some.inj ran ▸ ended
  | cons event events ih =>
    obtain ⟨next, stepped, ran⟩ := Option.bind_eq_some_iff.mp ran
    refine ih ran ?_
    cases again : next.isSniffing with
    | false => rfl
    | true => exact ((transition_of_step stepped).isSniffing again).symm.trans ended

-- An event that settles a sniffer leads on from it at once.
theorem fate_of_verdict {visit : Visit} {event : Event} {left : Session}
    {outcome : Except Failure String} (sniffing : visit.session.isSniffing = true)
    (inTime : visit.session.clock < deadline)
    (stepped : visit.step context (.meets event) = some next)
    (later : next.run context acts = some last) (left_clock : left.clock = visit.session.clock)
    (routed : next.session = left.route context outcome)
    (settled : ∀ limit, 0 < limit →
      visit.verdict? sniffer limit (.meets event :: acts) = some outcome) :
    Fate context visit visit.session.clock deadline
      (fun limit => visit.verdict? sniffer limit (.meets event :: acts)) (.meets event :: acts)
      last := by
  obtain ⟨-, -, -, met⟩ := Visit.step_meets stepped
  have ended := isSniffing_run (Visit.run_events later) (routed ▸ isSniffing_route left outcome)
  refine .decided ended ⟨[], event, acts, visit, rfl, rfl, sniffing, left_clock.symm, routed ▸ met⟩
    (Nat.le_of_eq left_clock.symm) (left_clock ▸ inTime) ?_
  intro limit positive within
  rw [left_clock, if_pos (Nat.lt_add_of_pos_right positive)]
  exact settled limit positive

theorem verdict?_stopped {visit : Visit} {stop : Stop} {event : Event} {limit : Nat}
    (positive : 0 < limit) (nothing : visit.underway = []) (stopped : visit.stop? = some stop)
    (same : next.stop? = visit.stop?) (later : next.run context acts = some last) :
    visit.verdict? sniffer limit (.meets event :: acts) =
      some (Sniffer.reader.finish sniffer stop) := by
  have silent := Visit.sent_of_stopped (by rw [same, stopped]; rfl) later
  rw [verdict?_cons positive, silent, nothing, stopped]
  rfl

theorem verdict?_waits {visit : Visit} {milliseconds limit : Nat} (positive : 0 < limit)
    (caught_up : visit.isCaughtUp = true) :
    visit.verdict? sniffer limit (.meets (.elapsed milliseconds) :: acts) =
      if limit ≤ milliseconds then none
      else visit.verdict? sniffer (limit - milliseconds) acts := by
  rw [verdict?_cons positive]
  by_cases past : limit ≤ milliseconds
  next =>
    have spent : limit - (Visit.Act.meets (.elapsed milliseconds)).span = 0 :=
      Nat.sub_eq_zero_of_le past
    obtain ⟨nothing, going⟩ : visit.underway = [] ∧ visit.stop? = none := by
      simpa [Visit.isCaughtUp] using caught_up
    rw [if_pos past, spent, Visit.early_zero, nothing, going]
    rfl
  next =>
    rw [if_neg past]
    rfl

theorem fate_run (inTime : clock < deadline)
    (ran : Visit.run context ⟨⟨clock, .sniffing sniffer deadline, ledger⟩, underway, stop?⟩ acts =
      some last) :
    Fate context ⟨⟨clock, .sniffing sniffer deadline, ledger⟩, underway, stop?⟩ clock deadline
      (fun limit => Visit.verdict? ⟨⟨clock, .sniffing sniffer deadline, ledger⟩, underway, stop?⟩
        sniffer limit acts) acts last := by
  induction acts generalizing clock sniffer ledger underway stop? with
  | nil =>
    obtain rfl := Option.some.inj ran
    refine .goes rfl inTime ?_
    intro caught_up
    obtain ⟨nothing, going⟩ : underway = [] ∧ stop? = none := by
      simpa [Visit.isCaughtUp] using caught_up
    subst nothing going
    cases deadline - clock <;> rfl
  | cons act acts ih =>
    obtain ⟨next, stepped, later⟩ := Option.bind_eq_some_iff.mp ran
    cases act with
    | sends bytes =>
      obtain ⟨-, rfl⟩ := Visit.step_sends stepped
      refine .still stepped rfl inTime ?_ (ih inTime later)
      intro limit positive
      exact verdict?_sends positive ..
    | stops stop =>
      obtain ⟨going, -, rfl⟩ := Visit.step_stops stepped
      refine .still stepped rfl inTime ?_ (ih inTime later)
      intro limit positive
      exact verdict?_stops positive going ..
    | meets event =>
      obtain ⟨allowed, same_stop, rest, met⟩ := Visit.step_meets stepped
      obtain ⟨session, underway', stop'⟩ := next
      dsimp only at same_stop rest met
      subst same_stop rest
      cases transition_of_step met with
      | @read _ _ _ after _ bytes some_read fits fed =>
        obtain ⟨rest, rfl⟩ := List.isPrefixOf_iff_prefix.mp allowed
        have left : (bytes ++ rest).drop ((Event.received .client bytes).carried .client).length =
            rest := by
          simp [Event.carried]
        rw [left] at stepped later
        refine .still stepped rfl inTime ?_ (ih inTime later)
        intro limit positive
        rw [verdict?_cons positive, List.append_assoc, Sniffer.verdict?_of_more fed]
        rfl
      | @sniffed _ _ _ _ bytes _ some_read fits fed =>
        obtain ⟨rest, rfl⟩ := List.isPrefixOf_iff_prefix.mp allowed
        refine fate_of_verdict rfl inTime stepped later ?_ rfl ?_
        next => rfl
        next =>
          intro limit positive
          rw [verdict?_cons positive, List.append_assoc, Sniffer.verdict?_of_settled fed]
      | interrupted retried =>
        refine .still stepped rfl inTime ?_ (ih inTime later)
        intro limit positive
        rw [verdict?_cons positive]
        rfl
      | @clientFailed _ _ _ _ fault reported =>
        obtain ⟨nothing, stopped⟩ : underway = [] ∧ stop' = some (.failed fault) := by
          simpa [Visit.allows, reported] using allowed
        refine fate_of_verdict rfl inTime stepped later ?_ rfl ?_
        next => rfl
        next =>
          intro limit positive
          exact verdict?_stopped positive nothing stopped (by rfl) later
      | clientEnded =>
        obtain ⟨nothing, stopped⟩ : underway = [] ∧ stop' = some .ended := by
          simpa [Visit.allows] using allowed
        refine fate_of_verdict rfl inTime stepped later ?_ rfl ?_
        next => rfl
        next =>
          intro limit positive
          exact verdict?_stopped positive nothing stopped (by rfl) later
      | @elapsed _ milliseconds =>
        have caught_up : Visit.isCaughtUp ⟨⟨clock, .sniffing sniffer deadline, ledger⟩, underway,
          stop'⟩ = true := by
          simpa [Visit.allows, Session.isSniffing] using allowed
        by_cases early : clock + milliseconds < deadline
        next =>
          have still : ring context ⟨clock + milliseconds, .sniffing sniffer deadline, ledger⟩ =
              ⟨clock + milliseconds, .sniffing sniffer deadline, ledger⟩ :=
            if_pos early
          rw [still] at stepped later
          refine .cons stepped early ?_ (ih early later)
          intro limit positive
          exact verdict?_waits positive caught_up
        next =>
          have rejected : ring context ⟨clock + milliseconds, .sniffing sniffer deadline, ledger⟩ =
              route context ⟨clock + milliseconds, .sniffing sniffer deadline, ledger⟩
                (.error (timeout context)) :=
            if_neg early
          rw [rejected] at later met
          have ended := isSniffing_run (Visit.run_events later) (by rfl)
          refine .late ended ⟨[], _, acts, _, rfl, rfl, rfl, rfl, met⟩ inTime ?_ ?_
          next => exact Nat.not_lt.mp early
          next =>
            rw [verdict?_waits (by omega) caught_up, if_pos (by omega)]

end

section

variable {context : Context}

theorem verdict?_ne_timeout (sniffer : Sniffer) (bytes : List UInt8) (stop? : Option Stop)
    (limit : Span) : sniffer.verdict? bytes stop? ≠ some (.error (.sniffTimeout limit)) := by
  have hello (result : Except Tls.HelloError Tls.Hello) :
      Sniffer.ofHello result ≠ .error (.sniffTimeout limit) := by
    cases result <;> simp [Sniffer.ofHello]
  have header (result : Except Http.HeaderError Http.HostHeader) :
      Sniffer.ofHostHeader result ≠ .error (.sniffTimeout limit) := by
    cases result with
    | error => simp [Sniffer.ofHostHeader]
    | ok header => simp only [Sniffer.ofHostHeader]; split <;> simp
  unfold Sniffer.verdict?
  split
  next result fed =>
    obtain ⟨last, byte, pushed⟩ := Reader.exists_push_of_feed fed
    cases last with
    | tls state =>
      obtain ⟨inner, rfl⟩ := Progress.exists_of_map_eq_settled pushed
      simpa using hello inner
    | http state =>
      obtain ⟨inner, rfl⟩ := Progress.exists_of_map_eq_settled pushed
      simpa using header inner
  next later fed =>
    cases stop? with
    | none => simp
    | some stop =>
      cases later with
      | tls state =>
        intro same
        exact hello (Tls.handshakeReader.finish state stop) (Option.some.inj same)
      | http state =>
        intro same
        exact header ((Http.headReader Http.lineLimit).finish state stop) (Option.some.inj same)

def blame? (session : Session) : Option Failure :=
  match session.phase with
  | .rejecting failure _ _ | .over (.error failure) => some failure
  | _ => none

theorem blame?_of_result? {session : Session} {failure : Failure}
    (failed : session.result? = some (.error failure)) : session.blame? = some failure := by
  unfold blame?
  rw [result?_eq_some_iff.mp failed]

theorem timeout_of_route {session : Session} {outcome : Except Failure String} {limit : Span}
    (blamed : (session.route context outcome).blame? = some (.sniffTimeout limit)) :
    outcome = .error (.sniffTimeout limit) := by
  unfold route at blamed
  split at blamed
  next => exact congrArg _ (Option.some.inj blamed)
  next =>
    split at blamed
    next => cases blamed
    next =>
      split at blamed
      next =>
        unfold dial at blamed
        dsimp only at blamed
        split at blamed <;> cases blamed
      next => cases blamed

theorem blame?_tryNext (session : Session) (dialing : Dialing) (deadline : Nat)
    (error : DialError) (targets : List SocketAddress) (limit : Span) :
    (session.tryNext context dialing deadline error targets).blame? ≠
      some (.sniffTimeout limit) := by
  cases targets <;> nofun

theorem blame?_ring {session : Session} {limit : Span}
    (blamed : (session.ring context).blame? = some (.sniffTimeout limit)) :
    session.isSniffing = true ∨ session.blame? = some (.sniffTimeout limit) := by
  obtain ⟨clock, phase, ledger⟩ := session
  cases phase with
  | sniffing => exact .inl rfl
  | dialing =>
    simp only [ring] at blamed
    split at blamed <;> cases blamed
  | splicing =>
    simp only [ring] at blamed
    split at blamed
    next => cases blamed
    next => split at blamed <;> cases blamed
  | rejecting =>
    simp only [ring] at blamed
    split at blamed <;> exact .inr blamed
  | replaying => cases blamed
  | «over» => exact .inr blamed

theorem Transition.blame? {session next : Session} {event : Event} {limit : Span}
    (stepped : Transition context session event next)
    (blamed : next.blame? = some (.sniffTimeout limit)) :
    session.isSniffing = true ∨ session.blame? = some (.sniffTimeout limit) := by
  cases stepped with
  | read | sniffed | interrupted | clientFailed | clientEnded => exact .inl rfl
  | resolved | refused => exact (blame?_tryNext _ _ _ _ _ _ blamed).elim
  | moved =>
    unfold settle at blamed
    split at blamed <;> cases blamed
  | elapsed =>
    have before := blame?_ring blamed
    exact before
  | rejecting | rejected | rejectionFlushed | rejectionShut | rejectionFailed => exact .inr blamed
  | unresolved | connected | replaying | replayed | replayFailed => cases blamed

theorem blame?_run {session last : Session} {events : List Event} {limit : Span}
    (ran : run context session events = some last) (ended : session.isSniffing = false)
    (blamed : last.blame? = some (.sniffTimeout limit)) :
    session.blame? = some (.sniffTimeout limit) := by
  induction events generalizing session with
  | nil => exact Option.some.inj ran ▸ blamed
  | cons event events ih =>
    obtain ⟨next, stepped, later⟩ := Option.bind_eq_some_iff.mp ran
    have began : run context session [event] = some next := by simp [run, stepped]
    have before := (transition_of_step stepped).blame? (ih later (isSniffing_run began ended))
    rw [ended] at before
    exact before.resolve_left Bool.false_ne_true

variable {visit next last : Visit} {act : Visit.Act} {acts : List Visit.Act} {now : Nat}

theorem stop_uninterrupted
    (before : ∀ stop, visit.stop? = some stop → stop.fault.isInterruption = false)
    (ran : visit.run context acts = some last) :
    ∀ stop, last.stop? = some stop → stop.fault.isInterruption = false := by
  induction acts generalizing visit with
  | nil => exact Option.some.inj ran ▸ before
  | cons act acts ih =>
    obtain ⟨next, stepped, later⟩ := Option.bind_eq_some_iff.mp ran
    refine ih ?_ later
    intro stop stopped
    cases act with
    | sends bytes =>
      obtain ⟨-, rfl⟩ := Visit.step_sends stepped
      exact before stop stopped
    | stops stop' =>
      obtain ⟨-, plain, rfl⟩ := Visit.step_stops stepped
      obtain rfl := Option.some.inj stopped
      exact plain
    | meets event =>
      obtain ⟨-, same, -, -⟩ := Visit.step_meets stepped
      exact before stop (same ▸ stopped)

theorem room_pos_of_run {clock deadline : Nat} {sniffer : Sniffer} {ledger : Ledger}
    {events : List Event} (ran : Session.run context (Session.start context now) events =
      some ⟨clock, .sniffing sniffer deadline, ledger⟩) : 0 < Sniffer.reader.room sniffer := by
  obtain ⟨-, fed⟩ : Undialed events ledger ∧ _ := gate_run ran
  cases answer : Sniffer.reader.feed (.start context.service.protocol) (sniffed events) with
  | mk progress spare =>
    rw [answer] at fed
    cases fed
    exact Sniffer.lively_reader.room_pos _
      (Sniffer.lively_reader.feed (Sniffer.sound_start _) answer)

theorem step_received_of_room {clock deadline : Nat} {sniffer : Sniffer} {ledger : Ledger}
    (room : 0 < Sniffer.reader.room sniffer) (byte : UInt8) :
    ∃ session, Session.step context ⟨clock, .sniffing sniffer deadline, ledger⟩
      (.received .client [byte]) = some session := by
  have fits : ¬([byte] = [] ∨ Sniffer.reader.room sniffer < [byte].length) := by
    rw [List.length_singleton]
    simpa using Nat.ne_of_gt room
  unfold Session.step onReceived
  dsimp only
  rw [if_neg fits]
  split <;> exact ⟨_, rfl⟩

theorem exists_read (ran : (Visit.start context now).run context acts = some last)
    (sniffing : last.session.isSniffing = true) (behind : last.isCaughtUp = false) :
    ∃ event next, event.waits = false ∧ last.step context (.meets event) = some next ∧
      (next.underway.length < last.underway.length ∨ next.session.isSniffing = false) := by
  have uninterrupted : ∀ stop, last.stop? = some stop → stop.fault.isInterruption = false := by
    refine stop_uninterrupted ?_ ran
    intro stop stopped
    cases stopped
  have began := Visit.run_events ran
  obtain ⟨⟨clock, phase, ledger⟩, underway, stop?⟩ := last
  cases phase with
  | sniffing sniffer deadline =>
    cases underway with
    | cons byte rest =>
      obtain ⟨session, stepped⟩ := step_received_of_room (room_pos_of_run began) byte
      refine ⟨.received .client [byte], _, rfl, Visit.meets_of_step ?_ stepped, .inl ?_⟩
      next => simp [Visit.allows]
      next => simp [Event.carried]
    | nil =>
      cases stop? with
      | none => cases behind
      | some stop =>
        have plain := uninterrupted stop rfl
        cases stop with
        | ended =>
          refine ⟨.ended .client, _, rfl, Visit.meets_of_step ?_ rfl, .inr ?_⟩
          next => simp [Visit.allows]
          next => exact isSniffing_route _ _
        | failed fault =>
          have stepped : Session.step context ⟨clock, .sniffing sniffer deadline, ledger⟩
              (.readFailed .client fault) =
              some (route context ⟨clock, .sniffing sniffer deadline, ledger⟩
                (Sniffer.reader.finish sniffer (.failed fault))) :=
            if_neg (Bool.eq_false_iff.mp plain)
          refine ⟨.readFailed .client fault, _, rfl, Visit.meets_of_step ?_ stepped, .inr ?_⟩
          next => simp [Visit.allows]
          next => exact isSniffing_route _ _
  | _ => cases sniffing

def verdictBy (service : Service) (limit : Nat) (acts : List Visit.Act) :
    Option (Except Failure String) :=
  (Sniffer.start service.protocol).verdict? (Visit.sent (Visit.early limit acts))
    (Visit.stopIn? (Visit.early limit acts))

def outcomeOf (context : Context) (acts : List Visit.Act) : Except Failure String :=
  (verdictBy context.service context.service.sniffLimit acts).getD (.error (timeout context))

/-- A session leaves sniffing when it has to: with the verdict on what was done in time, as soon as
that is settled, or else for good when the deadline has passed. -/
structure Punctual (context : Context) (now : Nat) (acts : List Visit.Act) (last : Visit)
    (earlier : Nat) (left : Session) : Prop where
  leaves : (Visit.start context now).Leaves context acts (outcomeOf context acts) earlier left
  inTime : earlier < now + context.service.sniffLimit
  prompt : ∀ outcome, verdictBy context.service context.service.sniffLimit acts = some outcome →
    earlier = left.clock ∧ ∀ limit ≤ context.service.sniffLimit,
      verdictBy context.service limit acts =
        if left.clock < now + limit then some outcome else none
  unblamed : ∀ outcome, verdictBy context.service context.service.sniffLimit acts = some outcome →
    ∀ limit, last.session.result? ≠ some (.error (.sniffTimeout limit))
  late : verdictBy context.service context.service.sniffLimit acts = none →
    now + context.service.sniffLimit ≤ left.clock
  undialed : verdictBy context.service context.service.sniffLimit acts = none →
    last.session.ledger.dials = [] ∧ last.session.ledger.tried = []
  rejected : verdictBy context.service context.service.sniffLimit acts = none →
    (∀ result, last.session.result? = some result → result = .error (timeout context)) ∧
      (left.clock + rejectionLimit ≤ last.session.clock →
        last.session.result? = some (.error (timeout context)))

theorem verdictBy_zero (service : Service) (acts : List Visit.Act) :
    verdictBy service 0 acts = none := by
  rw [verdictBy, Visit.early_zero]
  rfl

theorem fate_of_start (positive : 0 < context.service.sniffLimit)
    (ran : (Visit.start context now).run context acts = some last) :
    Fate context (Visit.start context now) now (now + context.service.sniffLimit)
      (fun limit => verdictBy context.service limit acts) acts last :=
  fate_run (Nat.lt_add_of_pos_right positive) ran

theorem Visit.Leaves.run {outcome : Except Failure String} {earlier : Nat} {left : Session}
    (leaves : visit.Leaves context acts outcome earlier left)
    (ran : visit.run context acts = some last) :
    ∃ events, Session.run context (left.route context outcome) events = some last.session := by
  obtain ⟨before, event, after, between, rfl, began, -, -, met⟩ := leaves
  have whole := Visit.run_events ran
  have front := Visit.run_events began
  have split : Visit.events (before ++ .meets event :: after) =
      Visit.events before ++ event :: Visit.events after :=
    List.filterMap_append
  rw [split, run_append, front] at whole
  exact ⟨Visit.events after, by simpa [Session.run, met] using whole⟩

theorem rejected_of_late {earlier : Nat} {left : Session}
    (leaves : (Visit.start context now).Leaves context acts (.error (timeout context)) earlier left)
    (ran : (Visit.start context now).run context acts = some last) :
    last.session.ledger.dials = [] ∧ last.session.ledger.tried = [] ∧
      (∀ result, last.session.result? = some result → result = .error (timeout context)) ∧
      (left.clock + rejectionLimit ≤ last.session.clock →
        last.session.result? = some (.error (timeout context))) := by
  have gate := gate_run (Visit.run_events ran)
  obtain ⟨events, ended⟩ := leaves.run ran
  have rejected := rejecting_run (Nat.lt_add_of_pos_right (by decide)) ended
  obtain ⟨⟨clock, phase, ledger⟩, underway, stop?⟩ := last
  rcases rejected with phase | ⟨stage, phase, inTime⟩
  all_goals
    dsimp only at phase
    subst phase
    obtain ⟨undialed, -⟩ : Undialed _ ledger ∧ _ := gate
    refine ⟨undialed.dials, undialed.tried, ?_, ?_⟩
  next => exact fun result reported => (Option.some.inj reported).symm
  next => exact fun _ => rfl
  next => exact nofun
  next => exact fun passed => absurd inTime (Nat.not_lt.mpr passed)

theorem unblamed_of_verdict {outcome : Except Failure String} {earlier : Nat} {left : Session}
    (settled : ∃ limit, verdictBy context.service limit acts = some outcome)
    (leaves : visit.Leaves context acts outcome earlier left)
    (ran : visit.run context acts = some last) (limit : Span) :
    last.session.result? ≠ some (.error (.sniffTimeout limit)) := by
  intro failed
  obtain ⟨events, ended⟩ := leaves.run ran
  have blamed := blame?_run ended (isSniffing_route left outcome) (blame?_of_result? failed)
  obtain ⟨within, settled⟩ := settled
  rw [timeout_of_route blamed] at settled
  exact verdict?_ne_timeout _ _ _ _ settled

theorem punctual_of_run (positive : 0 < context.service.sniffLimit)
    (ran : (Visit.start context now).run context acts = some last)
    (ended : last.session.isSniffing = false) :
    ∃ earlier left, Punctual context now acts last earlier left := by
  cases fate_of_start positive ran with
  | goes sniffing =>
    rw [ended] at sniffing
    cases sniffing
  | @decided outcome left _ leaves since inTime soonest =>
    rw [Nat.add_sub_cancel_left] at soonest
    have settled : verdictBy context.service context.service.sniffLimit acts = some outcome := by
      rw [soonest _ positive (Nat.le_refl _), if_pos inTime]
    have same : outcomeOf context acts = outcome := by
      rw [outcomeOf, settled]
      rfl
    refine ⟨left.clock, left, same ▸ leaves, inTime, ?_, ?_, ?_, ?_, ?_⟩
    next =>
      intro other found
      obtain rfl := Option.some.inj (settled.symm.trans found)
      refine ⟨rfl, ?_⟩
      intro limit within
      rcases Nat.eq_zero_or_pos limit with rfl | some_time
      next => rw [verdictBy_zero, Nat.add_zero, if_neg (Nat.not_lt.mpr since)]
      next => exact soonest limit some_time within
    next => exact fun _ _ => unblamed_of_verdict ⟨_, settled⟩ leaves ran
    all_goals
      intro undecided
      rw [settled] at undecided
      cases undecided
  | @late earlier left _ leaves inTime late undecided =>
    rw [Nat.add_sub_cancel_left] at undecided
    have same : outcomeOf context acts = .error (timeout context) := by
      rw [outcomeOf, undecided]
      rfl
    obtain ⟨dials, tried, rejected⟩ := rejected_of_late leaves ran
    refine ⟨earlier, left, same ▸ leaves, inTime, ?_, ?_, fun _ => late, fun _ => ⟨dials, tried⟩,
      fun _ => rejected⟩
    all_goals
      intro outcome found
      rw [undecided] at found
      cases found

/-- What comes of sniffing is what is made of the bytes that were sent before the deadline, and of
their end, as soon as that is settled. If they settle nothing the session is rejected when the
deadline has passed, without asking for a dialer. -/
theorem sniff_deadline_is_absolute (positive : 0 < context.service.sniffLimit)
    (ran : (Visit.start context now).run context acts = some last) :
    (last.session.isSniffing = true →
      last.session.clock < now + context.service.sniffLimit ∧
      (last.isCaughtUp = true → verdictBy context.service context.service.sniffLimit acts = none) ∧
      (last.isCaughtUp = false → ∃ event next, event.waits = false ∧
        last.step context (.meets event) = some next ∧
          (next.underway.length < last.underway.length ∨ next.session.isSniffing = false))) ∧
    (last.session.isSniffing = false → ∃ earlier left,
      Punctual context now acts last earlier left) ∧
    ∀ context' : Context, context'.service.protocol = context.service.protocol →
      context'.service.sniffLimit = context.service.sniffLimit → ∀ now' acts' last',
        (Visit.start context' now').run context' acts' = some last' →
        last'.session.isSniffing = false →
        Visit.sent (Visit.early context.service.sniffLimit acts') =
          Visit.sent (Visit.early context.service.sniffLimit acts) →
        Visit.stopIn? (Visit.early context.service.sniffLimit acts') =
          Visit.stopIn? (Visit.early context.service.sniffLimit acts) →
        ∃ earlier' left',
          (Visit.start context' now').Leaves context' acts' (outcomeOf context acts) earlier'
            left' := by
  refine ⟨?_, punctual_of_run positive ran, ?_⟩
  next =>
    intro sniffing
    cases fate_of_start positive ran with
    | goes _ inTime undecided =>
      rw [Nat.add_sub_cancel_left] at undecided
      exact ⟨inTime, undecided, exists_read ran sniffing⟩
    | decided ended | late ended =>
      rw [ended] at sniffing
      cases sniffing
  next =>
    intro context' protocol limit now' acts' last' ran' ended' sent stop
    obtain ⟨earlier', left', punctual⟩ := punctual_of_run (limit ▸ positive) ran' ended'
    have same : outcomeOf context' acts' = outcomeOf context acts := by
      rw [outcomeOf, outcomeOf, verdictBy, verdictBy, timeout, timeout, protocol, limit, sent, stop]
    exact ⟨earlier', left', same ▸ punctual.leaves⟩

end

-- The rest of the record comes when the deadline has passed.
def drippedActs : List Visit.Act :=
  [.sends [22], .meets (.received .client [22]), .meets (.elapsed 4999), .sends [3, 1],
    .meets (.received .client [3]), .meets (.received .client [1]), .meets (.elapsed 1),
    .sends (helloRecord.drop 3), .meets (.elapsed 1000)]

def pausedActs : List Visit.Act :=
  [.sends [22, 3, 1], .meets (.received .client [22, 3, 1]), .meets (.elapsed 6000)]

theorem drippedActs_meet_deadline : ∃ last last',
    (Visit.start helloContext 0).run helloContext drippedActs = some last ∧
    (Visit.start helloContext 0).run helloContext pausedActs = some last' ∧
      0 < helloContext.service.sniffLimit ∧ last.session.isSniffing = false ∧
      last'.session.isSniffing = false ∧ last.session.ledger.dials = [] ∧
        (∀ result, last.session.result? = some result → result = .error (timeout helloContext)) ∧
        ∃ earlier left, (Visit.start helloContext 0).Leaves helloContext pausedActs
          (outcomeOf helloContext drippedActs) earlier left := by
  have positive : 0 < helloContext.service.sniffLimit := by decide
  obtain ⟨last, ran, ended⟩ : ∃ last,
      (Visit.start helloContext 0).run helloContext drippedActs = some last ∧
        last.session.isSniffing = false := ⟨_, rfl, rfl⟩
  obtain ⟨last', ran', ended'⟩ : ∃ last',
      (Visit.start helloContext 0).run helloContext pausedActs = some last' ∧
        last'.session.isSniffing = false := ⟨_, rfl, rfl⟩
  obtain ⟨-, leaves, same⟩ := sniff_deadline_is_absolute positive ran
  obtain ⟨earlier, left, punctual⟩ := leaves ended
  have dials := (punctual.undialed rfl).1
  have only := (punctual.rejected rfl).1
  exact ⟨last, last', ran, ran', positive, ended, ended', dials, only,
    same helloContext rfl rfl 0 pausedActs last' ran' ended' rfl rfl⟩

end SniffingRelay.Session
