import SniffingRelay.Proofs.Session.Conveyance

set_option autoImplicit false

-- Where the bytes that a session has read are, in each phase, and that every transition keeps it
-- so.

namespace SniffingRelay.Session

def RejectionStage.unsent : RejectionStage -> List UInt8
  | .sending unsent => unsent
  | _ => []

structure Quiet (events : List Event) (ledger : Ledger) : Prop where
  unconnected : isConnected events = false
  heard : (ledger.traffic .client).heard.toList = sniffed events
  unheard : (ledger.traffic .backend).heard.toList = []
  untold : ∀ side, (ledger.traffic side).told.toList = []
  unshut : ∀ side, (ledger.traffic side).shuts = 0

structure Replays (events : List Event) (ledger : Ledger) (unsent : List UInt8) : Prop where
  connected : isConnected events = true
  heard : (ledger.traffic .client).heard.toList = sniffed events
  all : (ledger.traffic .backend).told.toList ++ unsent = sniffed events
  unheard : (ledger.traffic .backend).heard.toList = []
  untold : (ledger.traffic .client).told.toList = []
  unshut : ∀ side, (ledger.traffic side).shuts = 0

-- How many bytes were written for a half before it began.
def Splice.before (splice : Splice) : Side -> Nat
  | .client => splice.replayed
  | .backend => 0

structure Splices (events : List Event) (ledger : Ledger) (splice : Splice) : Prop where
  connected : isConnected events = true
  replayed : splice.replayed = (sniffed events).length
  conveys : ∀ source, Conveys events source (splice.before source)
    (ledger.traffic source).heard.toList (ledger.traffic source.other).told.toList
    (ledger.traffic source.other).shuts (splice.half source)

structure Refuses (context : Context) (events : List Event) (ledger : Ledger) (failure : Failure)
    (unsent : List UInt8) : Prop where
  reply : (ledger.traffic .client).told.toList ++ unsent = failure.rejection context.service.protocol
  front : (ledger.traffic .backend).told.toList <+: sniffed events
  unheard : (ledger.traffic .backend).heard.toList = []
  untold : isConnected events = false → (ledger.traffic .backend).told.toList = []
  unshut : (ledger.traffic .backend).shuts = 0

def Flow (context : Context) (events : List Event) (session : Session) : Prop :=
  match session.phase with
  | .sniffing _ _ | .dialing _ _ => Quiet events session.ledger
  | .replaying replaying => Replays events session.ledger replaying.unsent
  | .splicing splice => Splices events session.ledger splice
  | .rejecting failure stage _ => Refuses context events session.ledger failure stage.unsent
  | .over (.error failure) => ∃ unsent, Refuses context events session.ledger failure unsent
  | .over (.ok summary) => ∃ splice, Splice.summary splice = summary ∧
      Splices events session.ledger splice

theorem isConnected_of_append {events : List Event} {event : Event}
    (unconnected : isConnected (events ++ [event]) = false) : isConnected events = false := by
  rw [isConnected_append, Bool.or_eq_false_iff] at unconnected
  exact unconnected.1

theorem sniffed_append_of_carried (events : List Event) {event : Event}
    (nothing : event.carried .client = []) : sniffed (events ++ [event]) = sniffed events := by
  cases connected : isConnected events with
  | true => exact sniffed_append_of_connected connected _
  | false => rw [sniffed_append_of_unconnected connected, nothing, List.append_nil]

section

variable {context : Context} {events : List Event} {session : Session} {ledger : Ledger}

theorem Quiet.of_traffic {later : Ledger} (quiet : Quiet events ledger)
    (same : ∀ side, later.traffic side = ledger.traffic side) : Quiet events later where
  unconnected := quiet.unconnected
  heard := by rw [same, quiet.heard]
  unheard := by rw [same, quiet.unheard]
  untold side := by rw [same, quiet.untold]
  unshut side := by rw [same, quiet.unshut]

theorem Quiet.hear (quiet : Quiet events ledger) (bytes : List UInt8) :
    Quiet (events ++ [.received .client bytes]) (ledger.hear .client bytes) where
  unconnected := (isConnected_append_of_silent events rfl).trans quiet.unconnected
  heard := by
    have before := quiet.heard
    rw [sniffed_append_of_unconnected quiet.unconnected, ← before]
    simp [traffic_hear, Event.carried]
  unheard := quiet.unheard
  untold side := by
    have before := quiet.untold side
    rw [traffic_hear]
    split <;> exact before
  unshut side := by
    have before := quiet.unshut side
    rw [traffic_hear]
    split <;> exact before

theorem Quiet.later (quiet : Quiet events ledger) {event : Event}
    (nothing : event.carried .client = []) (unanswered : event.connects = false) :
    Quiet (events ++ [event]) ledger where
  unconnected := (isConnected_append_of_silent events unanswered).trans quiet.unconnected
  heard := by rw [sniffed_append_of_carried events nothing, quiet.heard]
  unheard := quiet.unheard
  untold := quiet.untold
  unshut := quiet.unshut

theorem Quiet.reject (quiet : Quiet events session.ledger) (failure : Failure) :
    Flow context events (session.reject context failure) where
  reply := by
    rw [Session.reject, quiet.untold]
    rfl
  front := by
    rw [Session.reject, quiet.untold]
    exact List.nil_prefix
  unheard := quiet.unheard
  untold _ := quiet.untold .backend
  unshut := quiet.unshut .backend

theorem Quiet.route (quiet : Quiet events session.ledger) (result : Except Failure String) :
    Flow context events (session.route context result) := by
  unfold Session.route
  split
  next failure => exact quiet.reject failure
  next host =>
    split
    next => exact quiet.reject .missingHostname
    next =>
      split
      next =>
        have dialed : Quiet events (session.ledger.dial host) :=
          quiet.of_traffic fun side => by cases side <;> rfl
        unfold Session.dial
        dsimp only
        split
        next error _ => exact dialed.reject (.dial host error)
        next => exact dialed
      next => exact quiet.reject (.notPermitted host)

theorem Quiet.tryNext (quiet : Quiet events session.ledger) (dialing : Dialing) (deadline : Nat)
    (error : DialError) (targets : List SocketAddress) :
    Flow context events (session.tryNext context dialing deadline error targets) := by
  cases targets with
  | nil => exact quiet.reject (.dial dialing.host error)
  | cons target later => exact quiet

theorem Quiet.connected (quiet : Quiet events ledger) (target : SocketAddress) :
    Replays (events ++ [.attempted none]) (ledger.attempt target)
      (ledger.attempt target).client.heard.toList where
  connected := by
    rw [isConnected_append]
    exact Bool.or_true _
  heard := by
    rw [sniffed_append_of_carried events rfl]
    exact quiet.heard
  all := by
    have heard := quiet.heard
    have untold := quiet.untold .backend
    rw [sniffed_append_of_carried events rfl, ← heard]
    exact congrArg (· ++ _) untold
  unheard := quiet.unheard
  untold := quiet.untold .client
  unshut side := by
    have before := quiet.unshut side
    cases side <;> exact before

theorem Refuses.later {failure : Failure} {unsent : List UInt8}
    (refuses : Refuses context events ledger failure unsent) {event : Event}
    (nothing : event.carried .client = []) :
    Refuses context (events ++ [event]) ledger failure unsent where
  reply := refuses.reply
  front := by
    rw [sniffed_append_of_carried events nothing]
    exact refuses.front
  unheard := refuses.unheard
  untold unconnected := refuses.untold (isConnected_of_append unconnected)
  unshut := refuses.unshut

theorem Refuses.tell {failure : Failure} {unsent : List UInt8}
    (refuses : Refuses context events ledger failure unsent) (count : Nat) :
    Refuses context (events ++ [.accepted .client count]) (ledger.tell .client (unsent.take count))
      failure (unsent.drop count) where
  reply := by
    simp only [traffic_tell, if_true, Transcript.toList_append, List.append_assoc,
      List.take_append_drop]
    exact refuses.reply
  front := by
    rw [sniffed_append_of_carried events rfl]
    exact refuses.front
  unheard := refuses.unheard
  untold unconnected := refuses.untold (isConnected_of_append unconnected)
  unshut := refuses.unshut

theorem Replays.tell {unsent : List UInt8} (replays : Replays events ledger unsent) (count : Nat) :
    Replays (events ++ [.accepted .backend count]) (ledger.tell .backend (unsent.take count))
      (unsent.drop count) where
  connected := by rw [isConnected_append, replays.connected, Bool.true_or]
  heard := by
    rw [sniffed_append_of_carried events rfl]
    exact replays.heard
  all := by
    rw [sniffed_append_of_carried events rfl]
    simp only [traffic_tell, if_true, Transcript.toList_append, List.append_assoc,
      List.take_append_drop]
    exact replays.all
  unheard := replays.unheard
  untold := replays.untold
  unshut side := by
    have before := replays.unshut side
    rw [traffic_tell]
    split <;> exact before

theorem Replays.reject {unsent : List UInt8} (replays : Replays events session.ledger unsent)
    (failure : Failure) : Flow context events (session.reject context failure) where
  reply := by
    rw [Session.reject, replays.untold]
    rfl
  front := ⟨unsent, replays.all⟩
  unheard := replays.unheard
  untold unconnected := by
    rw [replays.connected] at unconnected
    cases unconnected
  unshut := replays.unshut .backend

theorem Replays.later {unsent : List UInt8} (replays : Replays events ledger unsent) {event : Event}
    (nothing : event.carried .client = []) : Replays (events ++ [event]) ledger unsent where
  connected := by rw [isConnected_append, replays.connected, Bool.true_or]
  heard := by rw [sniffed_append_of_carried events nothing, replays.heard]
  all := by rw [sniffed_append_of_carried events nothing, replays.all]
  unheard := replays.unheard
  untold := replays.untold
  unshut := replays.unshut

theorem half_advance (splice : Splice) (source : Side) (half : Half) (alive : Bool) (clock : Nat) :
    (splice.advance source half alive clock).half source = half := by
  cases source <;> rfl

theorem half_other_advance (splice : Splice) (source : Side) (half : Half) (alive : Bool)
    (clock : Nat) :
    (splice.advance source half alive clock).half source.other = splice.half source.other := by
  cases source <;> rfl

theorem before_advance (splice : Splice) (source : Side) (half : Half) (alive : Bool) (clock : Nat) :
    (splice.advance source half alive clock).before = splice.before := by
  funext side
  cases source <;> cases side <;> rfl

-- What moves one half does not touch the side that the other reads from, nor what it writes.
theorem Moves.frame {source : Side} {half next : Half} {event : Event} {alive : Bool}
    (moves : Moves source half event alive next) (offered : List UInt8) :
    event.carried source.other = [] ∧ event.taken offered source = [] ∧
      event.shuts source = false ∧ ∀ count, event ≠ .accepted source count := by
  cases moves <;> cases source <;> simp [Event.carried, Event.taken, Event.shuts, Side.other]

theorem Moves.silent {source : Side} {half next : Half} {event : Event} {alive : Bool}
    (moves : Moves source half event alive next) : event.connects = false := by
  cases moves <;> rfl

theorem Splices.moves {splice : Splice} (splices : Splices events ledger splice) {source : Side}
    {event : Event} {half : Half} {alive : Bool} (clock : Nat)
    (moves : Moves source (splice.half source) event alive half) :
    Splices (events ++ [event]) (record ledger splice.offered event)
      (splice.advance source half alive clock) where
  connected := by rw [isConnected_append, splices.connected, Bool.true_or]
  replayed := by
    rw [sniffed_append_of_connected splices.connected]
    cases source <;> exact splices.replayed
  conveys side := by
    rw [before_advance, heard_record, told_record, shuts_record]
    have before := splices.conveys side
    by_cases same : side = source
    next =>
      subst same
      rw [half_advance, Splice.offered, Side.other_other]
      exact before.moves splices.connected moves
    next =>
      have other : side = source.other := by
        cases side <;> cases source <;> first | rfl | exact absurd rfl same
      subst other
      obtain ⟨uncarried, untaken, unshut, unaccepted⟩ :=
        moves.frame (splice.offered source.other.other)
      rw [half_other_advance, Side.other_other] at *
      rw [uncarried, untaken, unshut, List.append_nil, List.append_nil]
      rw [← Side.other_other source] at unaccepted
      exact before.later splices.connected unaccepted

theorem Splices.settle {splice : Splice} (splices : Splices events session.ledger splice) :
    Flow context events (session.settle splice) := by
  unfold Session.settle
  split
  next => exact ⟨splice, rfl, splices⟩
  next => exact splices

theorem Splices.later {splice : Splice} (splices : Splices events ledger splice) {event : Event}
    (untaken : ∀ side count, event ≠ .accepted side count) : Splices (events ++ [event]) ledger splice where
  connected := by rw [isConnected_append, splices.connected, Bool.true_or]
  replayed := by
    rw [sniffed_append_of_connected splices.connected]
    exact splices.replayed
  conveys source := (splices.conveys source).later splices.connected (untaken source.other)

theorem Replays.splice (replays : Replays events session.ledger []) (replaying : Replaying) :
    Flow context events (session.splice context replaying) where
  connected := replays.connected
  replayed := by
    have all := replays.all
    rw [List.append_nil] at all
    rw [← all]
    exact Transcript.size_eq_length _
  conveys source := by
    have all := replays.all
    rw [List.append_nil] at all
    cases source with
    | client =>
      refine .reading (all.trans replays.heard.symm) ?_ (replays.unshut .backend)
      exact Transcript.size_eq_length _
    | backend =>
      refine .reading (replays.untold.trans replays.unheard.symm) ?_ (replays.unshut .client)
      exact congrArg List.length replays.untold.symm

theorem Flow.ring (flow : Flow context events session) : Flow context events (session.ring context) := by
  obtain ⟨clock, phase, ledger⟩ := session
  unfold Session.ring
  cases phase with
  | sniffing | dialing =>
    dsimp only
    split
    next => exact flow
    next => exact Quiet.reject flow _
  | rejecting =>
    dsimp only
    split
    next => exact flow
    next => exact ⟨_, flow⟩
  | splicing splice =>
    dsimp only
    split
    next => exact flow
    next =>
      split
      next => exact ⟨splice, rfl, flow⟩
      next => exact ⟨flow.connected, flow.replayed, fun source => by cases source <;> exact flow.conveys _⟩
  | replaying | «over» => exact flow

theorem Flow.elapsed {milliseconds : Nat} (flow : Flow context events session) :
    Flow context (events ++ [.elapsed milliseconds]) session := by
  obtain ⟨clock, phase, ledger⟩ := session
  cases phase with
  | sniffing | dialing => exact Quiet.later flow rfl rfl
  | replaying => exact Replays.later flow rfl
  | splicing => exact Splices.later flow nofun
  | rejecting => exact Refuses.later flow rfl
  | «over» result =>
    cases result with
    | error =>
      obtain ⟨unsent, refuses⟩ := flow
      exact ⟨unsent, refuses.later rfl⟩
    | ok =>
      obtain ⟨splice, summary, splices⟩ := flow
      exact ⟨splice, summary, splices.later nofun⟩

theorem Flow.transition {next : Session} {event : Event} (flow : Flow context events session)
    (stepped : Transition context session event next) : Flow context (events ++ [event]) next := by
  -- Sniffing and dialing stay quiet; an answer turns what was heard into what is to be replayed.
  cases stepped with
  | read => exact Quiet.hear flow _
  | sniffed => exact (Quiet.hear flow _).route _
  | interrupted => exact Quiet.later flow rfl rfl
  | clientFailed | clientEnded => exact (Quiet.later flow rfl rfl).route _
  | unresolved => exact (Quiet.later flow rfl rfl).reject _
  | resolved => exact (Quiet.later flow rfl rfl).tryNext _ _ _ _
  | @refused _ _ _ _ ledger target =>
    have attempted : Quiet events (ledger.attempt target) :=
      Quiet.of_traffic flow fun side => by cases side <;> rfl
    exact (attempted.later rfl rfl).tryNext _ _ _ _
  | connected => exact Quiet.connected flow _
  | replaying => exact Replays.tell flow _
  | @replayed _ _ _ unsent =>
    have told := Replays.tell flow unsent.length
    rw [List.take_length, List.drop_length] at told
    exact told.splice _
  | replayFailed => exact (Replays.later flow rfl).reject _
  | rejecting => exact Refuses.tell flow _
  | @rejected _ _ _ unsent =>
    have told := Refuses.tell flow unsent.length
    dsimp only [RejectionStage.unsent] at told
    rw [List.take_length, List.drop_length] at told
    exact told
  | rejectionFlushed => exact Refuses.later flow rfl
  | rejectionShut =>
    have shut : Refuses context (events ++ [.shut .client]) _ _ _ := Refuses.later flow rfl
    exact ⟨_, shut.reply, shut.front, shut.unheard, shut.untold, shut.unshut⟩
  | rejectionFailed => exact ⟨_, Refuses.later flow rfl⟩
  | moved moves => exact (Splices.moves flow _ moves).settle
  | @elapsed clock milliseconds phase ledger =>
    have waited : Flow context (events ++ [.elapsed milliseconds])
      ⟨clock + milliseconds, phase, ledger⟩ := Flow.elapsed flow
    exact waited.ring

theorem flow_run {now : Nat} (ran : run context (start context now) events = some session) :
    Flow context events session := by
  refine run_invariant (Flow context) (fun _ _ _ _ => Flow.transition) ?_ ran
  exact ⟨rfl, rfl, rfl, fun side => by cases side <;> rfl, fun side => by cases side <;> rfl⟩

end

end SniffingRelay.Session
