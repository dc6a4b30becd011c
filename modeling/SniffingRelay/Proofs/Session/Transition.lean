import SniffingRelay.Session.Step

set_option autoImplicit false

-- All that a step of a session can be, one case for each thing that can happen in each phase.

namespace SniffingRelay

theorem Side.other_other (side : Side) : side.other.other = side := by
  cases side <;> rfl

namespace Session

-- What moves the half that reads from `source`, and whether that is a sign of life.
inductive Moves (source : Side) : Half -> Event -> Bool -> Half -> Prop where
  | read {moved : Nat} {chunk : List UInt8} (some_read : chunk ≠ [])
      (fits : chunk.length ≤ Half.chunkLimit) :
      Moves source ⟨moved, .reading⟩ (.received source chunk) true
        ⟨moved, .writing chunk.length chunk⟩
  | ended {moved : Nat} :
      Moves source ⟨moved, .reading⟩ (.ended source) false ⟨moved, .shutting⟩
  | readFailed {moved : Nat} {fault : Fault} :
      Moves source ⟨moved, .reading⟩ (.readFailed source fault) false ⟨moved, .shutting⟩
  | wrote {moved size count : Nat} {unsent : List UInt8} (some_taken : 0 < count)
      (some_left : count < unsent.length) :
      Moves source ⟨moved, .writing size unsent⟩ (.accepted source.other count) false
        ⟨moved, .writing size (unsent.drop count)⟩
  | emptied {moved size : Nat} {unsent : List UInt8} (some_taken : 0 < unsent.length) :
      Moves source ⟨moved, .writing size unsent⟩ (.accepted source.other unsent.length) true
        ⟨moved + size, .reading⟩
  | writeFailed {moved size : Nat} {unsent : List UInt8} {fault : Fault} :
      Moves source ⟨moved, .writing size unsent⟩ (.writeFailed source.other fault) false
        ⟨moved, .shutting⟩
  | shut {moved : Nat} :
      Moves source ⟨moved, .shutting⟩ (.shut source.other) false ⟨moved, .finished⟩

def Splice.advance (splice : Splice) (source : Side) (half : Half) (alive : Bool) (clock : Nat) :
    Splice :=
  let watch := if alive then splice.watch.map (Watch.touch · clock) else splice.watch
  match source with
  | .client => { splice with up := half, watch }
  | .backend => { splice with down := half, watch }

def Splice.offered (splice : Splice) (side : Side) : List UInt8 := (splice.half side.other).unsent

-- What an event does to a ledger, if the bytes in `offered` are to be written to each side.
def record (ledger : Ledger) (offered : Side -> List UInt8) : Event -> Ledger
  | .received side bytes => ledger.hear side bytes
  | .accepted side count => ledger.tell side ((offered side).take count)
  | .shut side => ledger.shut side
  | _ => ledger

inductive Transition (context : Context) : Session -> Event -> Session -> Prop where
  | read {clock deadline : Nat} {sniffer next : Sniffer} {ledger : Ledger} {bytes : List UInt8}
      (some_read : bytes ≠ []) (fits : bytes.length ≤ Sniffer.reader.room sniffer)
      (fed : (Sniffer.reader.feed sniffer bytes).1 = .more next) :
      Transition context ⟨clock, .sniffing sniffer deadline, ledger⟩ (.received .client bytes)
        ⟨clock, .sniffing next deadline, ledger.hear .client bytes⟩
  | sniffed {clock deadline : Nat} {sniffer : Sniffer} {ledger : Ledger} {bytes : List UInt8}
      {result : Except Failure String}
      (some_read : bytes ≠ []) (fits : bytes.length ≤ Sniffer.reader.room sniffer)
      (fed : (Sniffer.reader.feed sniffer bytes).1 = .settled result) :
      Transition context ⟨clock, .sniffing sniffer deadline, ledger⟩ (.received .client bytes)
        (route context ⟨clock, .sniffing sniffer deadline, ledger.hear .client bytes⟩ result)
  | interrupted {clock deadline : Nat} {sniffer : Sniffer} {ledger : Ledger} {fault : Fault}
      (retried : fault.isInterruption = true) :
      Transition context ⟨clock, .sniffing sniffer deadline, ledger⟩ (.readFailed .client fault)
        ⟨clock, .sniffing sniffer deadline, ledger⟩
  | clientFailed {clock deadline : Nat} {sniffer : Sniffer} {ledger : Ledger} {fault : Fault}
      (reported : fault.isInterruption = false) :
      Transition context ⟨clock, .sniffing sniffer deadline, ledger⟩ (.readFailed .client fault)
        (route context ⟨clock, .sniffing sniffer deadline, ledger⟩
          (Sniffer.reader.finish sniffer (.failed fault)))
  | clientEnded {clock deadline : Nat} {sniffer : Sniffer} {ledger : Ledger} :
      Transition context ⟨clock, .sniffing sniffer deadline, ledger⟩ (.ended .client)
        (route context ⟨clock, .sniffing sniffer deadline, ledger⟩
          (Sniffer.reader.finish sniffer .ended))
  | unresolved {clock deadline : Nat} {host : String} {dialer : Dialer} {ledger : Ledger}
      {fault : Fault} :
      Transition context ⟨clock, .dialing ⟨host, dialer, .resolving⟩ deadline, ledger⟩
        (.resolved (.error fault))
        (reject context ⟨clock, .dialing ⟨host, dialer, .resolving⟩ deadline, ledger⟩
          (.dial host (.resolve host fault)))
  | resolved {clock deadline : Nat} {host : String} {dialer : Dialer} {ledger : Ledger}
      {addresses : List SocketAddress} :
      Transition context ⟨clock, .dialing ⟨host, dialer, .resolving⟩ deadline, ledger⟩
        (.resolved (.ok addresses))
        (tryNext context ⟨clock, .dialing ⟨host, dialer, .resolving⟩ deadline, ledger⟩
          { host, dialer } deadline (.noAddresses host context.service.family)
          (dialer.targets context.service.family addresses))
  | refused {clock deadline : Nat} {host : String} {dialer : Dialer} {ledger : Ledger}
      {target : SocketAddress} {later : List SocketAddress} {refusal : Refusal} :
      Transition context ⟨clock, .dialing ⟨host, dialer, .trying target later⟩ deadline, ledger⟩
        (.attempted (some refusal))
        (tryNext context
          ⟨clock, .dialing ⟨host, dialer, .trying target later⟩ deadline, ledger.attempt target⟩
          { host, dialer } deadline (dialer.failure target refusal) later)
  | connected {clock deadline : Nat} {host : String} {dialer : Dialer} {ledger : Ledger}
      {target : SocketAddress} {later : List SocketAddress} :
      Transition context ⟨clock, .dialing ⟨host, dialer, .trying target later⟩ deadline, ledger⟩
        (.attempted none)
        (replay ⟨clock, .dialing ⟨host, dialer, .trying target later⟩ deadline, ledger.attempt target⟩
          host target)
  | replaying {clock count : Nat} {host : String} {backend : SocketAddress} {unsent : List UInt8}
      {ledger : Ledger} (some_taken : 0 < count) (some_left : count < unsent.length) :
      Transition context ⟨clock, .replaying ⟨host, backend, unsent⟩, ledger⟩
        (.accepted .backend count)
        ⟨clock, .replaying ⟨host, backend, unsent.drop count⟩, ledger.tell .backend (unsent.take count)⟩
  | replayed {clock : Nat} {host : String} {backend : SocketAddress} {unsent : List UInt8}
      {ledger : Ledger} (some_taken : 0 < unsent.length) :
      Transition context ⟨clock, .replaying ⟨host, backend, unsent⟩, ledger⟩
        (.accepted .backend unsent.length)
        (splice context
          ⟨clock, .replaying ⟨host, backend, unsent⟩, ledger.tell .backend unsent⟩
          ⟨host, backend, unsent⟩)
  | replayFailed {clock : Nat} {host : String} {backend : SocketAddress} {unsent : List UInt8}
      {ledger : Ledger} {fault : Fault} :
      Transition context ⟨clock, .replaying ⟨host, backend, unsent⟩, ledger⟩
        (.writeFailed .backend fault)
        (reject context ⟨clock, .replaying ⟨host, backend, unsent⟩, ledger⟩ (.replay host fault))
  | rejecting {clock deadline count : Nat} {failure : Failure} {unsent : List UInt8}
      {ledger : Ledger} (some_taken : 0 < count) (some_left : count < unsent.length) :
      Transition context ⟨clock, .rejecting failure (.sending unsent) deadline, ledger⟩
        (.accepted .client count)
        ⟨clock, .rejecting failure (.sending (unsent.drop count)) deadline,
          ledger.tell .client (unsent.take count)⟩
  | rejected {clock deadline : Nat} {failure : Failure} {unsent : List UInt8} {ledger : Ledger}
      (some_taken : 0 < unsent.length) :
      Transition context ⟨clock, .rejecting failure (.sending unsent) deadline, ledger⟩
        (.accepted .client unsent.length)
        ⟨clock, .rejecting failure .flushing deadline, ledger.tell .client unsent⟩
  | rejectionFlushed {clock deadline : Nat} {failure : Failure} {ledger : Ledger} :
      Transition context ⟨clock, .rejecting failure .flushing deadline, ledger⟩ .flushed
        ⟨clock, .rejecting failure .shutting deadline, ledger⟩
  | rejectionShut {clock deadline : Nat} {failure : Failure} {ledger : Ledger} :
      Transition context ⟨clock, .rejecting failure .shutting deadline, ledger⟩ (.shut .client)
        ⟨clock, .over (.error failure), ledger.shut .client⟩
  | rejectionFailed {clock deadline : Nat} {failure : Failure} {stage : RejectionStage}
      {ledger : Ledger} {fault : Fault} :
      Transition context ⟨clock, .rejecting failure stage deadline, ledger⟩
        (.writeFailed .client fault) ⟨clock, .over (.error failure), ledger⟩
  | moved {clock : Nat} {spliced : Splice} {ledger : Ledger} {source : Side} {event : Event}
      {half : Half} {alive : Bool} (moves : Moves source (spliced.half source) event alive half) :
      Transition context ⟨clock, .splicing spliced, ledger⟩ event
        (settle ⟨clock, .splicing spliced, record ledger spliced.offered event⟩
          (spliced.advance source half alive clock))
  | elapsed {clock milliseconds : Nat} {phase : Phase} {ledger : Ledger} :
      Transition context ⟨clock, phase, ledger⟩ (.elapsed milliseconds)
        (ring context ⟨clock + milliseconds, phase, ledger⟩)

theorem accept_eq_some {A : Type} {unsent : List UInt8} {count : Nat} {whole next : A}
    {part : List UInt8 -> A}
    (accepted : (if count = 0 ∨ unsent.length < count then none
      else match unsent.drop count with
        | [] => some whole
        | left => some (part left)) = some next) :
    0 < count ∧ (count = unsent.length ∧ next = whole ∨
      count < unsent.length ∧ next = part (unsent.drop count)) := by
  split at accepted
  next => cases accepted
  next within =>
    rw [not_or, Nat.not_lt] at within
    refine ⟨Nat.pos_of_ne_zero within.1, ?_⟩
    split at accepted
    next all =>
      exact .inl ⟨Nat.le_antisymm within.2 (List.drop_eq_nil_iff.mp all),
        (Option.some.inj accepted).symm⟩
    next some_left =>
      exact .inr ⟨Nat.lt_of_not_le fun reach => some_left (List.drop_eq_nil_iff.mpr reach),
        (Option.some.inj accepted).symm⟩

theorem move_eq_some {session next : Session} {splice : Splice} {source : Side} {move : Move}
    (moved : session.move splice source move = some next) :
    ∃ half, (splice.half source).step move = some half ∧
      next = session.settle
        (splice.advance source half ((splice.half source).isAlive move) session.clock) := by
  obtain ⟨half, stepped, rest⟩ := Option.bind_eq_some_iff.mp moved
  refine ⟨half, stepped, ?_⟩
  cases source <;> exact (Option.some.inj rest).symm

theorem moves_of_read {half next : Half} (source : Side) {chunk : List UInt8}
    (stepped : half.step (.read chunk) = some next) :
    Moves source half (.received source chunk) (half.isAlive (.read chunk)) next := by
  obtain ⟨moved, stage⟩ := half
  cases stage with
  | reading =>
    simp only [Half.step] at stepped
    split at stepped
    next => simp at stepped
    next within =>
      rw [not_or] at within
      exact Option.some.inj stepped ▸ .read within.1 (Nat.not_lt.mp within.2)
  | writing | shutting | finished => simp [Half.step] at stepped

theorem moves_of_wrote {half next : Half} (source : Side) {count : Nat}
    (stepped : half.step (.wrote count) = some next) :
    Moves source half (.accepted source.other count) (half.isAlive (.wrote count)) next := by
  obtain ⟨moved, stage⟩ := half
  cases stage with
  | writing size unsent =>
    obtain ⟨some_taken, ⟨rfl, rfl⟩ | ⟨some_left, rfl⟩⟩ := accept_eq_some stepped
    next =>
      have alive : Half.isAlive ⟨moved, .writing size unsent⟩ (.wrote unsent.length) = true := by
        simp [Half.isAlive, Half.unsent]
      rw [alive]
      exact .emptied some_taken
    next =>
      have alive : Half.isAlive ⟨moved, .writing size unsent⟩ (.wrote count) = false := by
        simp [Half.isAlive, Half.unsent, Nat.ne_of_gt some_left]
      rw [alive]
      exact .wrote some_taken some_left
  | reading | shutting | finished => simp [Half.step] at stepped

theorem stages_of_sourceStopped {half next : Half} (stepped : half.step .sourceStopped = some next) :
    ∃ moved, half = ⟨moved, .reading⟩ ∧ next = ⟨moved, .shutting⟩ := by
  obtain ⟨moved, stage⟩ := half
  cases stage with
  | reading => exact ⟨moved, rfl, (Option.some.inj stepped).symm⟩
  | writing | shutting | finished => simp [Half.step] at stepped

theorem stages_of_sinkFailed {half next : Half} (stepped : half.step .sinkFailed = some next) :
    ∃ moved size unsent, half = ⟨moved, .writing size unsent⟩ ∧ next = ⟨moved, .shutting⟩ := by
  obtain ⟨moved, stage⟩ := half
  cases stage with
  | writing size unsent => exact ⟨moved, size, unsent, rfl, (Option.some.inj stepped).symm⟩
  | reading | shutting | finished => simp [Half.step] at stepped

theorem stages_of_sinkShut {half next : Half} (stepped : half.step .sinkShut = some next) :
    ∃ moved, half = ⟨moved, .shutting⟩ ∧ next = ⟨moved, .finished⟩ := by
  obtain ⟨moved, stage⟩ := half
  cases stage with
  | shutting => exact ⟨moved, rfl, (Option.some.inj stepped).symm⟩
  | reading | writing | finished => simp [Half.step] at stepped

section

variable {context : Context} {next : Session} {clock : Nat} {ledger : Ledger}

theorem transition_of_move {spliced : Splice} {source : Side} {event : Event} {move : Move}
    (moves : ∀ half, (spliced.half source).step move = some half →
      Moves source (spliced.half source) event ((spliced.half source).isAlive move) half)
    (moved : Session.move ⟨clock, .splicing spliced, record ledger spliced.offered event⟩
      spliced source move = some next) :
    Transition context ⟨clock, .splicing spliced, ledger⟩ event next := by
  obtain ⟨half, stepped, rfl⟩ := move_eq_some moved
  exact .moved (moves half stepped)

theorem transition_of_onReceived {phase : Phase} {side : Side} {bytes : List UInt8}
    (stepped : onReceived context ⟨clock, phase, ledger⟩ side bytes = some next) :
    Transition context ⟨clock, phase, ledger⟩ (.received side bytes) next := by
  cases phase with
  | sniffing sniffer deadline =>
    cases side with
    | client =>
      unfold onReceived at stepped
      dsimp only at stepped
      split at stepped
      next => simp at stepped
      next within =>
        rw [not_or, Nat.not_lt] at within
        split at stepped
        next fed => exact Option.some.inj stepped ▸ .read within.1 within.2 fed
        next fed => exact Option.some.inj stepped ▸ .sniffed within.1 within.2 fed
    | backend => cases stepped
  | splicing spliced =>
    have moved : Session.move ⟨clock, .splicing spliced, ledger.hear side bytes⟩ spliced side
      (.read bytes) = some next := stepped
    exact transition_of_move (fun _ => moves_of_read side) moved
  | _ => cases stepped

theorem transition_of_stopped {spliced : Splice} {source : Side} {event : Event} {stop : Stop}
    (stops : ∀ moved, Moves source ⟨moved, .reading⟩ event false ⟨moved, .shutting⟩)
    (unwritten : ∀ offered, record ledger offered event = ledger)
    (stepped : onStopped context ⟨clock, .splicing spliced, ledger⟩ source stop = some next) :
    Transition context ⟨clock, .splicing spliced, ledger⟩ event next := by
  have moved : Session.move ⟨clock, .splicing spliced, ledger⟩ spliced source .sourceStopped =
    some next := stepped
  rw [← unwritten spliced.offered] at moved
  refine transition_of_move ?_ moved
  intro half stepped
  obtain ⟨moved, reading, rfl⟩ := stages_of_sourceStopped stepped
  rw [reading]
  exact stops moved

theorem transition_of_ended {phase : Phase} {side : Side}
    (stepped : onStopped context ⟨clock, phase, ledger⟩ side .ended = some next) :
    Transition context ⟨clock, phase, ledger⟩ (.ended side) next := by
  cases phase with
  | sniffing sniffer deadline =>
    cases side with
    | client => exact Option.some.inj stepped ▸ .clientEnded
    | backend => cases stepped
  | splicing spliced => exact transition_of_stopped (fun _ => .ended) (fun _ => rfl) stepped
  | _ => cases stepped

theorem transition_of_onReadFailed {phase : Phase} {side : Side} {fault : Fault}
    (stepped : onReadFailed context ⟨clock, phase, ledger⟩ side fault = some next) :
    Transition context ⟨clock, phase, ledger⟩ (.readFailed side fault) next := by
  cases phase with
  | sniffing sniffer deadline =>
    cases side with
    | client =>
      unfold onReadFailed at stepped
      dsimp only at stepped
      split at stepped
      next retried => exact Option.some.inj stepped ▸ .interrupted retried
      next reported =>
        exact Option.some.inj stepped ▸ .clientFailed (Bool.eq_false_iff.mpr reported)
    | backend => cases stepped
  | splicing spliced =>
    have stopped : onStopped context ⟨clock, .splicing spliced, ledger⟩ side (.failed fault) =
      some next := stepped
    exact transition_of_stopped (fun _ => .readFailed) (fun _ => rfl) stopped
  | _ => cases stepped

theorem transition_of_onAccepted {phase : Phase} {side : Side} {count : Nat}
    (stepped : onAccepted context ⟨clock, phase, ledger⟩ side count = some next) :
    Transition context ⟨clock, phase, ledger⟩ (.accepted side count) next := by
  cases phase with
  | replaying replaying =>
    cases side with
    | client => cases stepped
    | backend =>
      obtain ⟨host, backend, unsent⟩ := replaying
      obtain ⟨some_taken, ⟨rfl, rfl⟩ | ⟨some_left, rfl⟩⟩ := accept_eq_some stepped
      next =>
        dsimp only
        rw [List.take_length]
        exact .replayed some_taken
      next => exact .replaying some_taken some_left
  | rejecting failure stage deadline =>
    cases side with
    | client =>
      cases stage with
      | sending unsent =>
        obtain ⟨some_taken, ⟨rfl, rfl⟩ | ⟨some_left, rfl⟩⟩ := accept_eq_some stepped
        next =>
          dsimp only
          rw [List.take_length]
          exact .rejected some_taken
        next => exact .rejecting some_taken some_left
      | flushing | shutting => cases stepped
    | backend => cases stage <;> cases stepped
  | splicing spliced =>
    have moved : Session.move
      ⟨clock, .splicing spliced, ledger.tell side ((spliced.offered side).take count)⟩
        spliced side.other (.wrote count) = some next := stepped
    refine transition_of_move (fun half stepped => ?_) moved
    have moves := moves_of_wrote side.other stepped
    rwa [Side.other_other] at moves
  | _ => cases stepped

theorem transition_of_onWriteFailed {phase : Phase} {side : Side} {fault : Fault}
    (stepped : onWriteFailed context ⟨clock, phase, ledger⟩ side fault = some next) :
    Transition context ⟨clock, phase, ledger⟩ (.writeFailed side fault) next := by
  cases phase with
  | replaying replaying =>
    cases side with
    | client => cases stepped
    | backend => exact Option.some.inj stepped ▸ .replayFailed
  | rejecting failure stage deadline =>
    cases side with
    | client => exact Option.some.inj stepped ▸ .rejectionFailed
    | backend => cases stepped
  | splicing spliced =>
    have moved : Session.move ⟨clock, .splicing spliced, ledger⟩ spliced side.other .sinkFailed =
      some next := stepped
    refine transition_of_move (fun half stepped => ?_) moved
    obtain ⟨moved, size, unsent, writing, rfl⟩ := stages_of_sinkFailed stepped
    have moves : Moves side.other ⟨moved, .writing size unsent⟩ (.writeFailed side.other.other fault)
      false ⟨moved, .shutting⟩ := .writeFailed
    rw [Side.other_other] at moves
    rwa [writing]
  | _ => cases stepped

theorem transition_of_onShut {phase : Phase} {side : Side}
    (stepped : onShut ⟨clock, phase, ledger⟩ side = some next) :
    Transition context ⟨clock, phase, ledger⟩ (.shut side) next := by
  cases phase with
  | rejecting failure stage deadline =>
    cases side with
    | client =>
      cases stage with
      | shutting => exact Option.some.inj stepped ▸ .rejectionShut
      | sending | flushing => cases stepped
    | backend => cases stage <;> cases stepped
  | splicing spliced =>
    have moved : Session.move ⟨clock, .splicing spliced, ledger.shut side⟩ spliced side.other
      .sinkShut = some next := stepped
    refine transition_of_move (fun half stepped => ?_) moved
    obtain ⟨moved, shutting, rfl⟩ := stages_of_sinkShut stepped
    have moves : Moves side.other ⟨moved, .shutting⟩ (.shut side.other.other) false
      ⟨moved, .finished⟩ := .shut
    rw [Side.other_other] at moves
    rwa [shutting]
  | _ => cases stepped

theorem transition_of_onResolved {phase : Phase} {found : Except Fault (List SocketAddress)}
    (stepped : onResolved context ⟨clock, phase, ledger⟩ found = some next) :
    Transition context ⟨clock, phase, ledger⟩ (.resolved found) next := by
  cases phase with
  | dialing dialing deadline =>
    obtain ⟨host, dialer, stage⟩ := dialing
    cases stage with
    | resolving =>
      cases found with
      | error fault => exact Option.some.inj stepped ▸ .unresolved
      | ok addresses => exact Option.some.inj stepped ▸ .resolved
    | trying => cases stepped
  | _ => cases stepped

theorem transition_of_onAttempted {phase : Phase} {refusal : Option Refusal}
    (stepped : onAttempted context ⟨clock, phase, ledger⟩ refusal = some next) :
    Transition context ⟨clock, phase, ledger⟩ (.attempted refusal) next := by
  cases phase with
  | dialing dialing deadline =>
    obtain ⟨host, dialer, stage⟩ := dialing
    cases stage with
    | resolving => cases stepped
    | trying target later =>
      cases refusal with
      | none => exact Option.some.inj stepped ▸ .connected
      | some refusal => exact Option.some.inj stepped ▸ .refused
  | _ => cases stepped

end

theorem transition_of_step {context : Context} {session next : Session} {event : Event}
    (stepped : session.step context event = some next) :
    Transition context session event next := by
  obtain ⟨clock, phase, ledger⟩ := session
  cases event with
  | received side bytes => exact transition_of_onReceived stepped
  | ended side => exact transition_of_ended stepped
  | readFailed side fault => exact transition_of_onReadFailed stepped
  | accepted side count => exact transition_of_onAccepted stepped
  | writeFailed side fault => exact transition_of_onWriteFailed stepped
  | flushed =>
    cases phase with
    | rejecting failure stage deadline =>
      cases stage with
      | flushing => exact Option.some.inj stepped ▸ .rejectionFlushed
      | sending | shutting => cases stepped
    | _ => cases stepped
  | shut side => exact transition_of_onShut stepped
  | resolved found => exact transition_of_onResolved stepped
  | attempted refusal => exact transition_of_onAttempted stepped
  | elapsed milliseconds => exact Option.some.inj stepped ▸ .elapsed

theorem run_append (context : Context) (session : Session) (events later : List Event) :
    run context session (events ++ later) =
      (run context session events).bind fun next => run context next later := by
  induction events generalizing session with
  | nil => rfl
  | cons event events ih =>
    rw [List.cons_append, run, run]
    cases session.step context event with
    | none => rfl
    | some next => exact ih next

-- What has happened before grows with each event that is done, and so goes along in the induction.
theorem run_preserves {context : Context} (Holds : List Event -> Session -> Prop)
    (preserved : ∀ history session event next, Holds history session →
      Transition context session event next → Holds (history ++ [event]) next)
    {history events : List Event} {session last : Session} (holds : Holds history session)
    (ran : run context session events = some last) : Holds (history ++ events) last := by
  induction events generalizing history session with
  | nil =>
    rw [List.append_nil]
    exact Option.some.inj ran ▸ holds
  | cons event events ih =>
    obtain ⟨next, stepped, ran⟩ := Option.bind_eq_some_iff.mp ran
    have later := ih (preserved history session event next holds (transition_of_step stepped)) ran
    rwa [List.append_assoc] at later

theorem run_invariant {context : Context} {now : Nat} (Holds : List Event -> Session -> Prop)
    (preserved : ∀ history session event next, Holds history session →
      Transition context session event next → Holds (history ++ [event]) next)
    (initially : Holds [] (start context now)) {events : List Event} {session : Session}
    (ran : run context (start context now) events = some session) : Holds events session :=
  run_preserves Holds preserved initially ran

end Session

end SniffingRelay
