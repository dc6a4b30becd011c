import SniffingRelay.Proofs.Dial.Attempts
import SniffingRelay.Proofs.Ip.Embedding
import SniffingRelay.Proofs.Session.Dismissal
import SniffingRelay.Proofs.Session.Policy

set_option autoImplicit false

namespace SniffingRelay

def Failure.Dialed (host : String) (outcome : Except DialError SocketAddress) : Failure -> Prop
  | .dial dialed error => dialed = host ∧ outcome = .error error
  | .replay dialed _ => dialed = host ∧ ∃ backend, outcome = .ok backend
  | _ => False

namespace Session

def Phase.Dialed (host : String) (outcome : Except DialError SocketAddress) : Phase -> Prop
  | .replaying left => left.host = host ∧ outcome = .ok left.backend
  | .splicing splice => splice.host = host ∧ outcome = .ok splice.backend
  | .over (.ok summary) => summary.hostname = host ∧ outcome = .ok summary.backend
  | .rejecting failure _ _ | .over (.error failure) => failure.Dialed host outcome
  | .sniffing _ _ | .dialing _ _ => False

def Event.attempt? : Event -> Option (Option Refusal)
  | .attempted refusal => some refusal
  | _ => none

def attempted (events : List Event) : List (Option Refusal) := events.filterMap Event.attempt?

def Agree (outcomes : Nat -> Option Refusal) (answers : List (Option Refusal)) : Prop :=
  ∀ i answer, answers[i]? = some answer → outcomes i = answer

structure Answered (found : Except Fault (List SocketAddress)) (outcomes : Nat -> Option Refusal)
    (events : List Event) : Prop where
  found : ∀ other, .resolved other ∈ events → other = found
  attempts : Agree outcomes (attempted events)

-- What has become of attempts that are to go in a certain way. They are late only after some time.
inductive Dial (host : String) (dialer : Dialer) (deadline : Nat) (expected : Dialer.Attempts)
    (before : List SocketAddress) (events : List Event) (session : Session) : Prop where
  | trying {front later : List SocketAddress} {target : SocketAddress}
      (phase : session.phase = .dialing ⟨host, dialer, .trying target later⟩ deadline)
      (tried : session.ledger.tried = before ++ front) (next : front ++ [target] <+: expected.tried) :
      Dial host dialer deadline expected before events session
  | ended (dialed : session.phase.Dialed host expected.outcome)
      (tried : session.ledger.tried = before ++ expected.tried) :
      Dial host dialer deadline expected before events session
  | late {front : List SocketAddress}
      (dialed : session.phase.Dialed host (.error (.timeout (.ofMilliseconds dialer.limit))))
      (tried : session.ledger.tried = before ++ front) (among : front <+: expected.tried)
      (late : deadline ≤ session.clock) (waited : ∃ event ∈ events, event.waits = true) :
      Dial host dialer deadline expected before events session

section

variable {context : Context} {host : String} {outcome : Except DialError SocketAddress}
  {session next last : Session} {event : Event} {events : List Event}

theorem dialed_settle {splice : Splice} (dialed : Phase.Dialed host outcome (.splicing splice)) :
    (session.settle splice).phase.Dialed host outcome := by
  unfold settle
  split <;> exact dialed

theorem dialed_advance {splice : Splice} {source : Side} {half : Half} {alive : Bool} {clock : Nat}
    (dialed : Phase.Dialed host outcome (.splicing splice)) :
    Phase.Dialed host outcome (.splicing (splice.advance source half alive clock)) := by
  cases source <;> exact dialed

theorem dialed_ring (dialed : session.phase.Dialed host outcome) :
    (session.ring context).phase.Dialed host outcome := by
  obtain ⟨clock, phase, ledger⟩ := session
  unfold ring
  cases phase with
  | sniffing | dialing => exact dialed.elim
  | rejecting =>
    dsimp only
    split <;> exact dialed
  | splicing =>
    dsimp only
    split
    next => exact dialed
    next => split <;> exact dialed
  | replaying | «over» => exact dialed

theorem Transition.dialed (stepped : Transition context session event next)
    (dialed : session.phase.Dialed host outcome) :
    next.phase.Dialed host outcome ∧ next.ledger.tried = session.ledger.tried := by
  cases stepped with
  | read | sniffed | interrupted | clientFailed | clientEnded | unresolved | resolved | refused
    | connected => exact dialed.elim
  | replaying | replayed | rejecting | rejected | rejectionFlushed | rejectionShut
    | rejectionFailed => exact ⟨dialed, rfl⟩
  | @replayFailed _ _ backend => exact ⟨⟨dialed.1, backend, dialed.2⟩, rfl⟩
  | moved =>
    refine ⟨dialed_settle (dialed_advance dialed), ?_⟩
    rw [ledger_settle]
    exact tried_record ..
  | @elapsed clock milliseconds phase ledger =>
    have waited : Phase.Dialed host outcome
      (Session.phase ⟨clock + milliseconds, phase, ledger⟩) := dialed
    exact ⟨dialed_ring waited, congrArg Ledger.tried (ledger_ring ..)⟩

theorem dialed_run (ran : run context session events = some last)
    (dialed : session.phase.Dialed host outcome) :
    last.phase.Dialed host outcome ∧ last.ledger.tried = session.ledger.tried := by
  induction events generalizing session with
  | nil => exact Option.some.inj ran ▸ ⟨dialed, rfl⟩
  | cons event events ih =>
    obtain ⟨next, stepped, ran⟩ := Option.bind_eq_some_iff.mp ran
    obtain ⟨dialed, tried⟩ := (transition_of_step stepped).dialed dialed
    obtain ⟨later, kept⟩ := ih ran dialed
    exact ⟨later, kept.trans tried⟩

end

section

variable {context : Context} {host : String} {dialer : Dialer} {deadline clock : Nat}
  {ledger : Ledger} {outcomes : Nat -> Option Refusal} {events : List Event} {last session : Session}
  {target : SocketAddress} {rest before : List SocketAddress} {error : DialError}
  {expected : Dialer.Attempts} {event : Event}

theorem Agree.cons {answer : Option Refusal} {answers : List (Option Refusal)}
    (agree : Agree outcomes (answer :: answers)) :
    outcomes 0 = answer ∧ Agree (outcomes ∘ Nat.succ) answers :=
  ⟨agree 0 answer rfl, fun i other found => agree (i + 1) other found⟩

theorem Dial.after (dial : Dial host dialer deadline expected before events session)
    (event : Event) : Dial host dialer deadline expected before (event :: events) session := by
  cases dial with
  | trying phase tried next => exact .trying phase tried next
  | ended dialed tried => exact .ended dialed tried
  | late dialed tried among late waited =>
    obtain ⟨event, found, waits⟩ := waited
    exact .late dialed tried among late ⟨event, List.mem_cons_of_mem _ found, waits⟩

-- What comes after a refusal is a dial of its own, which begins with one more address tried.
theorem Dial.after_refusal
    (dial : Dial host dialer deadline expected (before ++ [target]) events session) :
    Dial host dialer deadline { expected with tried := target :: expected.tried } before events
      session := by
  cases dial with
  | @trying front _ _ phase tried next =>
    refine .trying phase (tried.trans (by simp)) (?_ : target :: front ++ [_] <+: _)
    exact (List.prefix_cons_inj target).mpr next
  | ended dialed tried => exact .ended dialed (tried.trans (by simp))
  | @late front dialed tried among late waited =>
    refine .late dialed (tried.trans (by simp)) (?_ : target :: front <+: _) late waited
    exact (List.prefix_cons_inj target).mpr among

theorem dial_of_late {stage : DialStage} (ran : run context (ring context
      ⟨clock, .dialing ⟨host, dialer, stage⟩ deadline, ledger⟩) events = some last)
    (late : deadline ≤ clock) {event : Event} (waits : event.waits = true) :
    Dial host dialer deadline expected ledger.tried (event :: events) last := by
  have rejected : ring context ⟨clock, .dialing ⟨host, dialer, stage⟩ deadline, ledger⟩ =
      reject context ⟨clock, .dialing ⟨host, dialer, stage⟩ deadline, ledger⟩
        (.dial host (.timeout (.ofMilliseconds dialer.limit))) :=
    if_neg (Nat.not_lt.mpr late)
  rw [rejected] at ran
  obtain ⟨dialed, tried⟩ := dialed_run ran ⟨rfl, rfl⟩
  have passed : clock ≤ last.clock := Nat.le.intro (clock_run ran).symm
  exact .late dialed (tried.trans (List.append_nil _).symm) List.nil_prefix
    (Nat.le_trans late passed) ⟨event, List.mem_cons_self .., waits⟩

theorem ring_dialing {stage : DialStage} (early : clock < deadline) :
    ring context ⟨clock, .dialing ⟨host, dialer, stage⟩ deadline, ledger⟩ =
      ⟨clock, .dialing ⟨host, dialer, stage⟩ deadline, ledger⟩ :=
  if_pos early

theorem trying_run (ran : run context
      ⟨clock, .dialing ⟨host, dialer, .trying target rest⟩ deadline, ledger⟩ events = some last)
    (agree : Agree outcomes (attempted events)) :
    Dial host dialer deadline (dialer.tryAll outcomes error (target :: rest)) ledger.tried events
      last := by
  induction events generalizing clock ledger target rest outcomes error with
  | nil =>
    obtain rfl := Option.some.inj ran
    refine .trying rfl (List.append_nil _).symm ?_
    simp only [Dialer.tryAll]
    split <;> simp
  | cons event events ih =>
    obtain ⟨next, stepped, ran⟩ := Option.bind_eq_some_iff.mp ran
    cases transition_of_step stepped with
    | @refused _ _ _ _ _ _ _ refusal =>
      obtain ⟨first, agree⟩ := agree.cons
      simp only [Dialer.tryAll, first]
      refine (Dial.after_refusal ?_).after _
      cases rest with
      | nil =>
        obtain ⟨dialed, tried⟩ := dialed_run ran ⟨rfl, rfl⟩
        exact .ended dialed (tried.trans (List.append_nil _).symm)
      | cons => exact ih ran agree
    | connected =>
      obtain ⟨first, agree⟩ := agree.cons
      obtain ⟨dialed, tried⟩ := dialed_run ran ⟨rfl, rfl⟩
      simp only [Dialer.tryAll, first]
      exact .ended dialed tried
    | @elapsed _ milliseconds =>
      by_cases early : clock + milliseconds < deadline
      next =>
        rw [ring_dialing early] at ran
        exact (ih ran agree).after _
      next => exact dial_of_late ran (Nat.not_lt.mp early) rfl

theorem Answered.later {found : Except Fault (List SocketAddress)} {milliseconds : Nat}
    (answered : Answered found outcomes (.elapsed milliseconds :: events)) :
    Answered found outcomes events :=
  ⟨fun other resolved => answered.found other (List.mem_cons_of_mem _ resolved), answered.attempts⟩

theorem dial_run {found : Except Fault (List SocketAddress)}
    (ran : run context ⟨clock, .dialing { host, dialer } deadline, ledger⟩ events = some last)
    (answered : Answered found outcomes events) :
    last.phase = .dialing { host, dialer } deadline ∧ last.ledger.tried = ledger.tried ∨
      Dial host dialer deadline (dialer.connect host context.service.family found outcomes)
        ledger.tried events last := by
  induction events generalizing clock with
  | nil =>
    obtain rfl := Option.some.inj ran
    exact .inl ⟨rfl, rfl⟩
  | cons event events ih =>
    obtain ⟨next, stepped, ran⟩ := Option.bind_eq_some_iff.mp ran
    cases transition_of_step stepped with
    | unresolved =>
      obtain rfl := answered.found _ (List.mem_cons_self ..)
      obtain ⟨dialed, tried⟩ := dialed_run ran ⟨rfl, rfl⟩
      exact .inr (.ended dialed (tried.trans (List.append_nil _).symm))
    | @resolved _ _ _ _ _ addresses =>
      obtain rfl := answered.found _ (List.mem_cons_self ..)
      have agree : Agree outcomes (attempted events) := answered.attempts
      refine .inr (Dial.after ?_ _)
      simp only [Dialer.connect]
      cases usable : dialer.targets context.service.family addresses with
      | nil =>
        rw [usable] at ran
        obtain ⟨dialed, tried⟩ := dialed_run ran ⟨rfl, rfl⟩
        exact .ended dialed (tried.trans (List.append_nil _).symm)
      | cons target rest =>
        rw [usable] at ran
        exact trying_run ran agree
    | @elapsed _ milliseconds =>
      by_cases early : clock + milliseconds < deadline
      next =>
        rw [ring_dialing early] at ran
        exact (ih ran answered.later).imp_right fun dial => dial.after _
      next => exact .inr (dial_of_late ran (Nat.not_lt.mp early) rfl)

def attempting (outcomes : Nat -> Option Refusal) (attempts : Dialer.Attempts) : List Event :=
  (List.range attempts.tried.length).map fun i => .attempted (outcomes i)

theorem attempting_cons (refusal : Refusal) (first : outcomes 0 = some refusal)
    (expected : Dialer.Attempts) :
    attempting outcomes { expected with tried := target :: expected.tried } =
      .attempted (some refusal) :: attempting (outcomes ∘ Nat.succ) expected := by
  simp [attempting, List.range_succ_eq_map, first]

theorem exists_run_trying (context : Context) (host : String) (dialer : Dialer)
    (clock deadline : Nat) (ledger : Ledger) (outcomes : Nat -> Option Refusal) (error : DialError)
    (target : SocketAddress) (rest : List SocketAddress) :
    ∃ last, run context ⟨clock, .dialing ⟨host, dialer, .trying target rest⟩ deadline, ledger⟩
        (attempting outcomes (dialer.tryAll outcomes error (target :: rest))) = some last ∧
      last.phase.Dialed host (dialer.tryAll outcomes error (target :: rest)).outcome ∧
      last.ledger.tried =
        ledger.tried ++ (dialer.tryAll outcomes error (target :: rest)).tried := by
  induction rest generalizing target ledger outcomes error with
  | nil =>
    cases first : outcomes 0 <;>
      simp only [Dialer.tryAll, first, attempting, List.length_singleton, List.range_one,
        List.map_singleton] <;>
      exact ⟨_, rfl, ⟨rfl, rfl⟩, rfl⟩
  | cons next rest ih =>
    rw [Dialer.tryAll]
    cases first : outcomes 0 with
    | none =>
      simp only [attempting, List.length_singleton, List.range_one, List.map_singleton, first]
      exact ⟨_, rfl, ⟨rfl, rfl⟩, rfl⟩
    | some refusal =>
      obtain ⟨last, ran, dialed, tried⟩ := ih (ledger.attempt target) (outcomes ∘ Nat.succ)
        (dialer.failure target refusal) next
      dsimp only
      rw [attempting_cons refusal first]
      exact ⟨last, ran, dialed, tried.trans (List.append_assoc ..)⟩

theorem exists_run_dial (context : Context) (host : String) (dialer : Dialer)
    (found : Except Fault (List SocketAddress)) (outcomes : Nat -> Option Refusal)
    (clock deadline : Nat) (ledger : Ledger) :
    ∃ last, run context ⟨clock, .dialing { host, dialer } deadline, ledger⟩ (.resolved found ::
        attempting outcomes (dialer.connect host context.service.family found outcomes)) =
          some last ∧
      last.phase.Dialed host (dialer.connect host context.service.family found outcomes).outcome ∧
      last.ledger.tried =
        ledger.tried ++ (dialer.connect host context.service.family found outcomes).tried := by
  cases found with
  | error fault => exact ⟨_, rfl, ⟨rfl, rfl⟩, (List.append_nil _).symm⟩
  | ok addresses =>
    have stepped : step context ⟨clock, .dialing { host, dialer } deadline, ledger⟩
        (.resolved (.ok addresses)) =
          some (tryNext context ⟨clock, .dialing { host, dialer } deadline, ledger⟩ { host, dialer }
            deadline (.noAddresses host context.service.family)
            (dialer.targets context.service.family addresses)) := rfl
    rw [run, stepped]
    simp only [Dialer.connect]
    cases dialer.targets context.service.family addresses with
    | nil => exact ⟨_, rfl, ⟨rfl, rfl⟩, (List.append_nil _).symm⟩
    | cons target rest => exact exists_run_trying ..

theorem Dial.connect_of_wanted {origin : Option Ip6}
    (dial : last.phase = .dialing { host, dialer } deadline ∨
      Dial host dialer deadline expected before events last)
    (wanted : .connect origin target ∈ last.wants context) :
    origin = dialer.source ∧ target ∈ expected.tried := by
  obtain ⟨asked, own, later, limit, rfl, phase⟩ := dialing_of_connect wanted
  rcases dial with resolving | dial
  next =>
    rw [phase] at resolving
    cases resolving
  next =>
    cases dial with
    | trying same _ next =>
      rw [phase] at same
      cases same
      exact ⟨rfl, next.mem (List.mem_append_right _ (List.mem_singleton_self _))⟩
    | ended dialed | late dialed =>
      rw [phase] at dialed
      exact dialed.elim

/-- Of the addresses found, those that the family admits and the source can reach are tried in their
order, up to the first that answers. A session does this step by step unless its time for it runs
out, and in a subnet it never tries an IPv4 address or one without its own source. -/
theorem usable_addresses_are_tried_in_order (context : Context) (host : String) (dialer : Dialer)
    (found : Except Fault (List SocketAddress)) (outcomes : Nat -> Option Refusal) :
    dialer.Obeys host context.service.family found outcomes
      (dialer.connect host context.service.family found outcomes) ∧
    (∀ clock deadline ledger events last,
      run context ⟨clock, .dialing { host, dialer } deadline, ledger⟩ events = some last →
      Answered found outcomes events →
      (last.phase = .dialing { host, dialer } deadline ∧ last.ledger.tried = ledger.tried ∨
        Dial host dialer deadline (dialer.connect host context.service.family found outcomes)
          ledger.tried events last) ∧
      ∀ origin target, .connect origin target ∈ last.wants context → origin = dialer.source ∧
        target ∈ (dialer.connect host context.service.family found outcomes).tried) ∧
    (∀ clock deadline ledger, ∃ last,
      run context ⟨clock, .dialing { host, dialer } deadline, ledger⟩ (.resolved found ::
        attempting outcomes (dialer.connect host context.service.family found outcomes)) =
          some last ∧
      last.phase.Dialed host (dialer.connect host context.service.family found outcomes).outcome ∧
      last.ledger.tried =
        ledger.tried ++ (dialer.connect host context.service.family found outcomes).tried) ∧
    ∀ subnet limit peer, Origin.dialerFor (.within subnet) limit peer = .ok dialer →
      ∃ source, dialer.source = some source ∧
        ∀ target ∈ (dialer.connect host context.service.family found outcomes).tried,
          target.isIp6 = true := by
  have obeys := dialer.obeys_connect host context.service.family found outcomes
  refine ⟨obeys, ?_, exists_run_dial context host dialer found outcomes, ?_⟩
  next =>
    intro clock deadline ledger events last ran answered
    have dial := dial_run ran answered
    exact ⟨dial, fun origin target => Dial.connect_of_wanted (dial.imp_left And.left)⟩
  next =>
    intro subnet limit peer made
    obtain ⟨client, -, rfl⟩ := Origin.dialerFor_ok_iff.mp made
    exact ⟨subnet.synthesize client, rfl, obeys.bound _ rfl⟩

-- Of four addresses a dialer in a subnet may try three. The second of these answers, or none does.
def mixedAddresses : List SocketAddress :=
  [.v4 ⟨1⟩ 443, .v6 ⟨2⟩ 443 0, .v6 ⟨3⟩ 443 0, .v6 ⟨2⟩ 443 0]

def refusedOnce : Nat -> Option Refusal
  | 0 => some (.connect .refused)
  | _ => none

def refusedThroughout : Nat -> Option Refusal
  | 0 => some (.connect .refused)
  | 1 => some (.connect .unreachable)
  | _ => some (.bind .notAssignable)

def wellKnownSubnet : Subnet :=
  ⟨⟨⟨0x64ff9b#128 <<< 96⟩, 96, by decide⟩, by decide, by decide⟩

theorem mixedAddresses_are_tried_in_order : ∃ dialer last failed,
    Origin.dialerFor (.within wellKnownSubnet) 3000 (.v4 ⟨7⟩ 50000) = .ok dialer ∧
    run helloContext ⟨0, .dialing { host := "a", dialer } 3000, {}⟩
      [.resolved (.ok mixedAddresses), .attempted (some (.connect .refused)), .attempted none] =
        some last ∧
    last.phase.Dialed "a" (.ok (.v6 ⟨3⟩ 443 0)) ∧
    last.ledger.tried = [.v6 ⟨2⟩ 443 0, .v6 ⟨3⟩ 443 0] ∧
    (∃ source, dialer.source = some source) ∧ (∀ target ∈ last.ledger.tried, target.isIp6 = true) ∧
    run helloContext ⟨0, .dialing { host := "a", dialer } 3000, {}⟩
      [.resolved (.ok mixedAddresses), .attempted (some (.connect .refused)),
        .attempted (some (.connect .unreachable)), .attempted (some (.bind .notAssignable))] =
        some failed ∧
    failed.phase.Dialed "a"
      (.error (.bind (.v6 (wellKnownSubnet.synthesize ⟨7⟩) 0 0) .notAssignable)) ∧
    failed.ledger.tried = [.v6 ⟨2⟩ 443 0, .v6 ⟨3⟩ 443 0, .v6 ⟨2⟩ 443 0] := by
  have made : Origin.dialerFor (.within wellKnownSubnet) 3000 (.v4 ⟨7⟩ 50000) =
      .ok ⟨some (wellKnownSubnet.synthesize ⟨7⟩), 3000⟩ := rfl
  obtain ⟨-, -, instant, subnets⟩ := usable_addresses_are_tried_in_order helloContext "a"
    ⟨some (wellKnownSubnet.synthesize ⟨7⟩), 3000⟩ (.ok mixedAddresses) refusedOnce
  obtain ⟨-, -, fails, -⟩ := usable_addresses_are_tried_in_order helloContext "a"
    ⟨some (wellKnownSubnet.synthesize ⟨7⟩), 3000⟩ (.ok mixedAddresses) refusedThroughout
  obtain ⟨last, ran, dialed, tried⟩ := instant 0 3000 {}
  obtain ⟨failed, ran', dialed', tried'⟩ := fails 0 3000 {}
  obtain ⟨source, bound, onlyIp6⟩ := subnets _ _ _ made
  exact ⟨_, last, failed, made, ran, dialed, tried, ⟨source, bound⟩, tried ▸ onlyIp6, ran', dialed',
    tried'⟩

end

end Session

end SniffingRelay
