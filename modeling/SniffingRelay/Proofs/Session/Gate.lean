import SniffingRelay.Proofs.Session.Flow
import SniffingRelay.Proofs.Session.Sniffing

set_option autoImplicit false

-- What has been found out about a host, and what has been asked for on its behalf, in each phase.

namespace SniffingRelay.Session

def permits (context : Context) (host : String) : Bool :=
  host ≠ "" && context.service.allowList.allows host

def Sniffs (context : Context) (events : List Event) (host : String) : Prop :=
  (Sniffer.reader.feed (.start context.service.protocol) (sniffed events)).1 = .settled (.ok host)

def Admits (context : Context) (events : List Event) (host : String) (target : SocketAddress) : Prop :=
  ∃ dialer addresses, context.dialer host = .ok dialer ∧ .resolved (.ok addresses) ∈ events ∧
    target ∈ dialer.targets context.service.family addresses

structure Passes (context : Context) (events : List Event) (ledger : Ledger) (host : String) :
    Prop where
  sniffs : Sniffs context events host
  permitted : permits context host = true
  dials : ledger.dials = [host]
  tried : ∀ target ∈ ledger.tried, Admits context events host target

structure Undialed (events : List Event) (ledger : Ledger) : Prop where
  unconnected : isConnected events = false
  dials : ledger.dials = []
  tried : ledger.tried = []

def Halts (context : Context) (events : List Event) (ledger : Ledger) : Stage -> Prop
  | .sniffing => Undialed events ledger ∧ ∀ host, ¬Sniffs context events host
  | .policyCheck => Undialed events ledger ∧
      ∃ host, Sniffs context events host ∧ permits context host = false
  | .dialing => isConnected events = false ∧ ∃ host, Passes context events ledger host
  | .replaying => isConnected events = true ∧ (∃ host, Passes context events ledger host) ∧
      (ledger.traffic .backend).told.toList.length < (sniffed events).length
  | .splicing | .closed => False

def DialStage.targets : DialStage -> List SocketAddress
  | .resolving => []
  | .trying target later => target :: later

def Gate (context : Context) (events : List Event) (session : Session) : Prop :=
  match session.phase with
  | .sniffing sniffer _ => Undialed events session.ledger ∧
      (Sniffer.reader.feed (.start context.service.protocol) (sniffed events)).1 = .more sniffer
  | .dialing dialing _ => isConnected events = false ∧
      Passes context events session.ledger dialing.host ∧
      context.dialer dialing.host = .ok dialing.dialer ∧
      ∀ target ∈ dialing.stage.targets, Admits context events dialing.host target
  | .replaying replaying => isConnected events = true ∧
      Passes context events session.ledger replaying.host ∧ replaying.unsent ≠ []
  | .splicing splice => isConnected events = true ∧ Passes context events session.ledger splice.host
  | .over (.ok summary) =>
      isConnected events = true ∧ Passes context events session.ledger summary.hostname
  | .rejecting failure _ _ | .over (.error failure) =>
      Halts context events session.ledger failure.stage

section

variable {context : Context} {events : List Event} {session : Session} {ledger : Ledger}
  {host : String}

theorem Admits.later {target : SocketAddress} (admits : Admits context events host target)
    (event : Event) : Admits context (events ++ [event]) host target := by
  obtain ⟨dialer, addresses, asked, resolved, found⟩ := admits
  exact ⟨dialer, addresses, asked, List.mem_append_left _ resolved, found⟩

theorem Sniffs.later {event : Event} (nothing : event.carried .client = []) :
    Sniffs context (events ++ [event]) host ↔ Sniffs context events host := by
  rw [Sniffs, Sniffs, sniffed_append_of_carried events nothing]

theorem Passes.later {event : Event} (passes : Passes context events ledger host)
    (kept : sniffed (events ++ [event]) = sniffed events) :
    Passes context (events ++ [event]) ledger host where
  sniffs := by
    rw [Sniffs, kept]
    exact passes.sniffs
  permitted := passes.permitted
  dials := passes.dials
  tried target found := (passes.tried target found).later event

theorem Passes.step {event : Event} (passes : Passes context events ledger host)
    (nothing : event.carried .client = []) : Passes context (events ++ [event]) ledger host :=
  passes.later (sniffed_append_of_carried events nothing)

theorem Passes.of_ledger {later : Ledger} (passes : Passes context events ledger host)
    (dials : later.dials = ledger.dials) (tried : later.tried = ledger.tried) :
    Passes context events later host where
  sniffs := passes.sniffs
  permitted := passes.permitted
  dials := dials.trans passes.dials
  tried := tried ▸ passes.tried

theorem Undialed.later {event : Event} (undialed : Undialed events ledger)
    (unanswered : event.connects = false) : Undialed (events ++ [event]) ledger where
  unconnected := (isConnected_append_of_silent events unanswered).trans undialed.unconnected
  dials := undialed.dials
  tried := undialed.tried

theorem Undialed.hear (undialed : Undialed events ledger) (bytes : List UInt8) :
    Undialed (events ++ [.received .client bytes]) (ledger.hear .client bytes) :=
  ⟨(undialed.later rfl).unconnected, undialed.dials, undialed.tried⟩

theorem Halts.later {later : Ledger} {event : Event} {stage : Stage}
    (halts : Halts context events ledger stage) (nothing : event.carried .client = [])
    (unanswered : event.connects = false) (dials : later.dials = ledger.dials)
    (tried : later.tried = ledger.tried)
    (told : (later.traffic .backend).told = (ledger.traffic .backend).told) :
    Halts context (events ++ [event]) later stage := by
  have connected := isConnected_append_of_silent events unanswered
  have kept := sniffed_append_of_carried events nothing
  cases stage with
  | sniffing =>
    obtain ⟨undialed, unnamed⟩ := halts
    refine ⟨⟨connected.trans undialed.unconnected, dials.trans undialed.dials,
      tried.trans undialed.tried⟩, ?_⟩
    intro host sniffs
    exact unnamed host ((Sniffs.later nothing).mp sniffs)
  | policyCheck =>
    obtain ⟨undialed, host, sniffs, forbidden⟩ := halts
    exact ⟨⟨connected.trans undialed.unconnected, dials.trans undialed.dials,
      tried.trans undialed.tried⟩, host, (Sniffs.later nothing).mpr sniffs, forbidden⟩
  | dialing =>
    obtain ⟨unconnected, host, passes⟩ := halts
    exact ⟨connected.trans unconnected, host, (passes.later kept).of_ledger dials tried⟩
  | replaying =>
    obtain ⟨answered, ⟨host, passes⟩, short⟩ := halts
    refine ⟨connected.trans answered, ⟨host, (passes.later kept).of_ledger dials tried⟩, ?_⟩
    rw [told, kept]
    exact short
  | splicing | closed => exact halts

theorem feed_sniffed_append {sniffer : Sniffer} (unconnected : isConnected events = false)
    (more : (Sniffer.reader.feed (.start context.service.protocol) (sniffed events)).1 = .more sniffer)
    (bytes : List UInt8) :
    (Sniffer.reader.feed (.start context.service.protocol)
      (sniffed (events ++ [.received .client bytes]))).1 = (Sniffer.reader.feed sniffer bytes).1 := by
  rw [sniffed_append_of_unconnected unconnected, Reader.feed_fst_append more]
  simp [Event.carried]

theorem not_sniffs_of_more {sniffer : Sniffer}
    (more : (Sniffer.reader.feed (.start context.service.protocol) (sniffed events)).1 = .more sniffer)
    (host : String) : ¬Sniffs context events host := by
  intro sniffs
  rw [Sniffs, more] at sniffs
  cases sniffs

theorem sniffed_ne_nil (sniffs : Sniffs context events host) : sniffed events ≠ [] := by
  intro nothing
  rw [Sniffs, nothing] at sniffs
  cases sniffs

theorem Undialed.route {result : Except Failure String} (undialed : Undialed events session.ledger)
    (fed : (Sniffer.reader.feed (.start context.service.protocol) (sniffed events)).1 =
      .settled result) : Gate context events (session.route context result) := by
  unfold Session.route
  split
  next failure =>
    have stage := Sniffer.stage_of_feed fed
    change Halts context events session.ledger failure.stage
    rw [stage]
    refine ⟨undialed, fun host sniffs => ?_⟩
    rw [Sniffs, fed] at sniffs
    cases sniffs
  next host =>
    split
    next nameless => exact ⟨undialed, host, fed, by simp [permits, nameless]⟩
    next named =>
      split
      next permitted =>
        have passes : Passes context events (session.ledger.dial host) host := by
          refine ⟨fed, by simp [permits, named, permitted], ?_, ?_⟩
          next => exact congrArg (· ++ [host]) undialed.dials
          next =>
            intro target found
            have untried : (session.ledger.dial host).tried = [] := undialed.tried
            rw [untried] at found
            cases found
        unfold Session.dial
        dsimp only
        split
        next => exact ⟨undialed.unconnected, host, passes⟩
        next asked => exact ⟨undialed.unconnected, passes, asked, nofun⟩
      next forbidden => exact ⟨undialed, host, fed, by simp [permits, forbidden]⟩

theorem Undialed.stop {sniffer : Sniffer} (undialed : Undialed events session.ledger)
    (more : (Sniffer.reader.feed (.start context.service.protocol) (sniffed events)).1 = .more sniffer)
    (stop : Stop) : Gate context events (session.route context (Sniffer.reader.finish sniffer stop)) := by
  obtain ⟨failure, finished, stage⟩ := Sniffer.finish_eq_error sniffer stop
  rw [finished]
  change Halts context events session.ledger failure.stage
  rw [stage]
  exact ⟨undialed, not_sniffs_of_more more⟩

theorem Passes.tryNext {dialing : Dialing} {targets : List SocketAddress}
    (passes : Passes context events session.ledger dialing.host)
    (unconnected : isConnected events = false)
    (asked : context.dialer dialing.host = .ok dialing.dialer)
    (admits : ∀ target ∈ targets, Admits context events dialing.host target) (deadline : Nat)
    (error : DialError) :
    Gate context events (session.tryNext context dialing deadline error targets) := by
  cases targets with
  | nil => exact ⟨unconnected, dialing.host, passes⟩
  | cons target later => exact ⟨unconnected, passes, asked, admits⟩

theorem Passes.attempt {target : SocketAddress} (passes : Passes context events ledger host)
    (admits : Admits context events host target) :
    Passes context events (ledger.attempt target) host where
  sniffs := passes.sniffs
  permitted := passes.permitted
  dials := passes.dials
  tried other found := by
    rcases List.mem_append.mp found with found | found
    next => exact passes.tried other found
    next => exact List.mem_singleton.mp found ▸ admits

-- A session can only have sniffed a name if it has bytes to replay.
theorem Passes.connected {clock : Nat} {phase : Phase} {target : SocketAddress}
    (passes : Passes context events ledger host) (admits : Admits context events host target)
    (heard : ledger.client.heard.toList = sniffed events) :
    Gate context (events ++ [.attempted none])
      (replay ⟨clock, phase, ledger.attempt target⟩ host target) := by
  refine ⟨?_, (passes.attempt admits).step rfl, ?_⟩
  next =>
    rw [isConnected_append]
    exact Bool.or_true _
  next =>
    change ledger.client.heard.toList ≠ []
    rw [heard]
    exact sniffed_ne_nil passes.sniffs

theorem Passes.replayFailed {unsent : List UInt8} {fault : Fault}
    (passes : Passes context events session.ledger host) (answered : isConnected events = true)
    (all : (session.ledger.traffic .backend).told.toList ++ unsent = sniffed events)
    (some_left : unsent ≠ []) :
    Gate context events (session.reject context (.replay host fault)) := by
  refine ⟨answered, ⟨host, passes⟩, ?_⟩
  have positive : 0 < unsent.length := List.length_pos_iff.mpr some_left
  change (session.ledger.traffic .backend).told.toList.length < _
  rw [← all, List.length_append]
  omega

theorem Gate.ring (gate : Gate context events session) : Gate context events (session.ring context) := by
  obtain ⟨clock, phase, ledger⟩ := session
  unfold Session.ring
  cases phase with
  | sniffing =>
    dsimp only
    split
    next => exact gate
    next => exact ⟨gate.1, not_sniffs_of_more gate.2⟩
  | dialing dialing =>
    dsimp only
    split
    next => exact gate
    next => exact ⟨gate.1, dialing.host, gate.2.1⟩
  | rejecting =>
    dsimp only
    split <;> exact gate
  | splicing splice =>
    dsimp only
    split
    next => exact gate
    next => split <;> exact gate
  | replaying | «over» => exact gate

theorem Gate.elapsed {milliseconds : Nat} (gate : Gate context events session) :
    Gate context (events ++ [.elapsed milliseconds]) session := by
  have connected : isConnected (events ++ [.elapsed milliseconds]) = isConnected events :=
    isConnected_append_of_silent events rfl
  have kept : sniffed (events ++ [.elapsed milliseconds]) = sniffed events :=
    sniffed_append_of_carried events rfl
  obtain ⟨clock, phase, ledger⟩ := session
  cases phase with
  | sniffing =>
    obtain ⟨undialed, more⟩ := gate
    exact ⟨undialed.later rfl, kept ▸ more⟩
  | dialing =>
    obtain ⟨unconnected, passes, asked, admits⟩ := gate
    exact ⟨connected.trans unconnected, passes.later kept, asked,
      fun target found => (admits target found).later _⟩
  | replaying =>
    obtain ⟨answered, passes, some_left⟩ := gate
    exact ⟨connected.trans answered, passes.later kept, some_left⟩
  | splicing =>
    obtain ⟨answered, passes⟩ := gate
    exact ⟨connected.trans answered, passes.later kept⟩
  | rejecting => exact Halts.later gate rfl rfl rfl rfl rfl
  | «over» result =>
    cases result with
    | error => exact Halts.later gate rfl rfl rfl rfl rfl
    | ok =>
      obtain ⟨answered, passes⟩ := gate
      exact ⟨connected.trans answered, passes.later kept⟩

theorem dials_record (ledger : Ledger) (offered : Side -> List UInt8) (event : Event) :
    (record ledger offered event).dials = ledger.dials := by
  cases event with
  | received side | accepted side | shut side => cases side <;> rfl
  | _ => rfl

theorem tried_record (ledger : Ledger) (offered : Side -> List UInt8) (event : Event) :
    (record ledger offered event).tried = ledger.tried := by
  cases event with
  | received side | accepted side | shut side => cases side <;> rfl
  | _ => rfl

theorem host_advance (splice : Splice) (source : Side) (half : Half) (alive : Bool) (clock : Nat) :
    (splice.advance source half alive clock).host = splice.host := by
  cases source <;> rfl

theorem Passes.settle {splice : Splice} (passes : Passes context events session.ledger splice.host)
    (connected : isConnected events = true) : Gate context events (session.settle splice) := by
  unfold Session.settle
  split <;> exact ⟨connected, passes⟩

theorem Gate.transition {next : Session} {event : Event} (gate : Gate context events session)
    (flow : Flow context events session) (stepped : Transition context session event next) :
    Gate context (events ++ [event]) next := by
  -- The bytes that were sniffed grow only while sniffing; from an answer on they are settled.
  cases stepped with
  | read _ _ fed =>
    obtain ⟨undialed, more⟩ := gate
    have grown := feed_sniffed_append undialed.unconnected more
    exact ⟨Undialed.hear undialed _, (grown _).trans fed⟩
  | sniffed _ _ fed =>
    obtain ⟨undialed, more⟩ := gate
    have grown := feed_sniffed_append undialed.unconnected more
    exact Undialed.route (Undialed.hear undialed _) ((grown _).trans fed)
  | interrupted =>
    obtain ⟨undialed, more⟩ := gate
    exact ⟨undialed.later rfl, by rwa [sniffed_append_of_carried events rfl]⟩
  | clientFailed | clientEnded =>
    obtain ⟨undialed, more⟩ := gate
    exact Undialed.stop (undialed.later rfl) (by rwa [sniffed_append_of_carried events rfl]) _
  | unresolved =>
    obtain ⟨unconnected, passes, -, -⟩ := gate
    exact ⟨(isConnected_append_of_silent events rfl).trans unconnected, _, passes.step rfl⟩
  | @resolved _ _ _ dialer _ addresses =>
    obtain ⟨unconnected, passes, asked, -⟩ := gate
    refine Passes.tryNext (passes.step rfl)
      ((isConnected_append_of_silent events rfl).trans unconnected) asked ?_ _ _
    intro target found
    exact ⟨dialer, addresses, asked, List.mem_append_right _ (List.mem_singleton_self _), found⟩
  | @refused _ _ _ _ _ target =>
    obtain ⟨unconnected, passes, asked, admits⟩ := gate
    have attempted := passes.attempt (admits target (List.mem_cons_self ..))
    refine Passes.tryNext (attempted.step rfl)
      ((isConnected_append_of_silent events rfl).trans unconnected) asked ?_ _ _
    intro other found
    exact (admits other (List.mem_cons_of_mem _ found)).later _
  | @connected _ _ _ _ _ target =>
    obtain ⟨-, passes, -, admits⟩ := gate
    exact passes.connected (admits target (List.mem_cons_self ..)) (Quiet.heard flow)
  | replaying some_taken some_left =>
    obtain ⟨answered, passes, -⟩ := gate
    refine ⟨(isConnected_append_of_silent events rfl).trans answered,
      (passes.step rfl).of_ledger rfl rfl, ?_⟩
    intro nothing
    exact Nat.not_le_of_lt some_left (List.drop_eq_nil_iff.mp nothing)
  | replayed =>
    obtain ⟨answered, passes, -⟩ := gate
    exact ⟨(isConnected_append_of_silent events rfl).trans answered,
      (passes.step rfl).of_ledger rfl rfl⟩
  | replayFailed =>
    obtain ⟨answered, passes, some_left⟩ := gate
    exact (passes.step rfl).replayFailed ((isConnected_append_of_silent events rfl).trans answered)
      (Replays.later flow rfl).all some_left
  | rejecting | rejected | rejectionFlushed | rejectionShut | rejectionFailed =>
    exact Halts.later gate rfl rfl rfl rfl rfl
  | @moved _ spliced _ source event half alive moves =>
    obtain ⟨answered, passes⟩ := gate
    have kept := sniffed_append_of_connected answered [event]
    have recorded := (passes.later kept).of_ledger (dials_record _ spliced.offered event)
      (tried_record _ spliced.offered event)
    rw [← host_advance spliced source half alive] at recorded
    exact Passes.settle recorded ((isConnected_append_of_silent events moves.silent).trans answered)
  | @elapsed clock milliseconds phase ledger =>
    have waited : Gate context (events ++ [.elapsed milliseconds])
      ⟨clock + milliseconds, phase, ledger⟩ := Gate.elapsed gate
    exact waited.ring

theorem gate_run {now : Nat} (ran : run context (start context now) events = some session) :
    Gate context events session := by
  have both := run_invariant
    (fun history session => Flow context history session ∧ Gate context history session)
    (fun _ _ _ _ holds stepped => ⟨holds.1.transition stepped, holds.2.transition holds.1 stepped⟩)
    ⟨flow_run rfl, ⟨rfl, rfl, rfl⟩, rfl⟩ ran
  exact both.2

end

end SniffingRelay.Session
