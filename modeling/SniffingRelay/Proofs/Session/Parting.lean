import SniffingRelay.Proofs.Session.Deadline
import SniffingRelay.Proofs.Session.Hearing
import SniffingRelay.Rehearsal.Scene

set_option autoImplicit false

namespace SniffingRelay

namespace Session

-- Events other than the passing of time that a rejection can still meet.
def RejectionStage.left : RejectionStage -> Nat
  | .sending unsent => unsent.length + 2
  | .flushing => 2
  | .shutting => 1

def RejectionStage.want : RejectionStage -> Want
  | .sending unsent => .write .client unsent
  | .flushing => .flush
  | .shutting => .shut .client

-- A rejection is under way and in time, or it is over; and how many events it can still meet.
inductive Rejecting (failure : Failure) (bytes : List UInt8) (deadline : Nat) :
    Session -> Nat -> Prop where
  | going {clock : Nat} {stage : RejectionStage} {ledger : Ledger} (inTime : clock < deadline)
      (some_left : stage ≠ .sending [])
      (reply : (ledger.traffic .client).told.toList ++ stage.unsent = bytes) :
      Rejecting failure bytes deadline ⟨clock, .rejecting failure stage deadline, ledger⟩ stage.left
  | ended {clock : Nat} {ledger : Ledger}
      (front : (ledger.traffic .client).told.toList <+: bytes) :
      Rejecting failure bytes deadline ⟨clock, .over (.error failure), ledger⟩ 0

section

variable {context : Context} {failure : Failure} {bytes : List UInt8} {deadline left : Nat}
  {session next last : Session} {event : Event} {events : List Event}

theorem voice?_of_blame? (blamed : session.blame? = some failure) :
    session.voice? = some .relay := by
  obtain ⟨clock, phase, ledger⟩ := session
  cases phase with
  | rejecting => rfl
  | «over» result =>
    cases result with
    | error => rfl
    | ok => cases blamed
  | sniffing | dialing | replaying | splicing => cases blamed

theorem Rejecting.result? (rejecting : Rejecting failure bytes deadline session left)
    (result : Except Failure Summary) (ended : session.result? = some result) :
    result = .error failure := by
  cases rejecting with
  | going => cases ended
  | ended => exact (Option.some.inj ended).symm

theorem Rejecting.result?_of_late (rejecting : Rejecting failure bytes deadline session left)
    (late : deadline ≤ session.clock) : session.result? = some (.error failure) := by
  cases rejecting with
  | going inTime => exact absurd inTime (Nat.not_lt_of_le late)
  | ended => rfl

theorem Rejecting.blame? (rejecting : Rejecting failure bytes deadline session left) :
    session.blame? = some failure := by
  cases rejecting <;> rfl

theorem Rejecting.front (rejecting : Rejecting failure bytes deadline session left) :
    (session.ledger.traffic .client).told.toList <+: bytes := by
  cases rejecting with
  | going inTime some_left reply => exact ⟨_, reply⟩
  | ended front => exact front

theorem Dismisses.rejecting (dismisses : Dismisses context failure session)
    (untold : session.ledger.client.told.toList = []) :
    Rejecting failure (failure.rejection context.service.protocol) (session.clock + rejectionLimit)
      session ((failure.rejection context.service.protocol).length + 2) := by
  obtain ⟨clock, phase, ledger⟩ := session
  obtain rfl : phase = .rejecting failure (.sending (failure.rejection _)) (clock + rejectionLimit) :=
    dismisses
  refine .going (Nat.lt_add_of_pos_right (by decide)) ?_ ?_
  next =>
    intro nothing
    exact failure.rejection_ne_nil _ (RejectionStage.sending.inj nothing)
  next => exact congrArg (· ++ _) untold

/-- What a failed session keeps to from the beginning of its rejection. -/
structure Outlasts (context : Context) (failure : Failure) (rejected last : Session) : Prop where
  same : ∀ result, last.result? = some result → result = .error failure
  inTime : rejected.clock + rejectionLimit ≤ last.clock → last.result? = some (.error failure)
  front : last.ledger.client.told.toList <+: failure.rejection context.service.protocol

theorem Rejecting.outlasts {rejected : Session}
    (rejecting : Rejecting failure (failure.rejection context.service.protocol)
      (rejected.clock + rejectionLimit) last left) : Outlasts context failure rejected last where
  same := rejecting.result?
  inTime := rejecting.result?_of_late
  front := rejecting.front

theorem told_tell {unsent : List UInt8} {ledger : Ledger} (count : Nat)
    (reply : (ledger.traffic .client).told.toList ++ unsent = bytes) :
    ((ledger.tell .client (unsent.take count)).traffic .client).told.toList ++ unsent.drop count =
      bytes := by
  simpa [traffic_tell] using reply

theorem Rejecting.transition (rejecting : Rejecting failure bytes deadline session left)
    (stepped : Transition context session event next) :
    ∃ later, Rejecting failure bytes deadline next later ∧
      later + (answers [event]).length ≤ left := by
  cases rejecting with
  | @going clock stage ledger inTime some_left reply =>
    cases stepped with
    | @rejecting _ _ count _ unsent _ some_taken left_over =>
      refine ⟨_, .going inTime ?_ (told_tell count reply), ?_⟩
      next => simpa using left_over
      next =>
        simp [answers, Event.waits, RejectionStage.left]
        omega
    | @rejected _ _ _ unsent _ some_taken =>
      refine ⟨_, .going inTime nofun ?_, ?_⟩
      next => simpa [traffic_tell, RejectionStage.unsent] using reply
      next =>
        simp [answers, Event.waits, RejectionStage.left]
        omega
    | rejectionFlushed => exact ⟨_, .going inTime nofun reply, by decide⟩
    | rejectionShut =>
      refine ⟨0, .ended ?_, by decide⟩
      rw [traffic_shut, if_pos rfl]
      exact ⟨[], reply⟩
    | rejectionFailed =>
      refine ⟨0, .ended ⟨_, reply⟩, ?_⟩
      cases stage <;> simp [answers, Event.waits, RejectionStage.left]
    | @elapsed _ milliseconds =>
      by_cases early : clock + milliseconds < deadline
      next =>
        rw [ring_rejecting early]
        exact ⟨_, .going early some_left reply, Nat.le_refl _⟩
      next =>
        rw [ring_rejecting_late early]
        exact ⟨0, .ended ⟨_, reply⟩, Nat.zero_le _⟩
  | ended front =>
    cases stepped with
    | elapsed => exact ⟨0, .ended front, Nat.le_refl _⟩

theorem Rejecting.run (rejecting : Rejecting failure bytes deadline session left)
    (ran : Session.run context session events = some last) :
    ∃ later, Rejecting failure bytes deadline last later ∧
      later + (answers events).length ≤ left := by
  induction events generalizing session left with
  | nil => exact ⟨left, Option.some.inj ran ▸ rejecting, Nat.le_refl _⟩
  | cons event events ih =>
    obtain ⟨next, stepped, ran⟩ := Option.bind_eq_some_iff.mp ran
    obtain ⟨between, rejecting, fewer⟩ := rejecting.transition (transition_of_step stepped)
    obtain ⟨later, rejecting, fewest⟩ := ih rejecting ran
    refine ⟨later, rejecting, ?_⟩
    have both : answers (event :: events) = answers [event] ++ answers events :=
      List.filter_append [event] events
    rw [both, List.length_append]
    omega

end

end Session

namespace Peer

def take (peer : Peer) (count : Nat) : Peer :=
  { peer with
    inbox := peer.inbox.append (peer.incoming.take count)
    incoming := peer.incoming.drop count }

-- How many bytes a peer has room for that was as `before`, with what it has read since.
def roomSince (before peer : Peer) : Nat :=
  before.capacity - before.incoming.length + (peer.inbox.toList.length - before.inbox.toList.length)

-- A peer was given bytes since it was as `before`. It has read some, and the others fit into its
-- connection.
structure Given (before peer : Peer) (bytes : List UInt8) : Prop where
  began : before.incoming.length ≤ before.capacity
  capacity : peer.capacity = before.capacity
  present : peer.presence = .present
  all : peer.received = before.received ++ bytes
  front : before.inbox.toList <+: peer.inbox.toList
  fits : peer.incoming.length ≤ peer.capacity

section

variable {before peer next : Peer} {bytes : List UInt8}

theorem Given.start (began : peer.incoming.length ≤ peer.capacity)
    (present : peer.presence = .present) : Given peer peer [] where
  began := began
  capacity := rfl
  present := present
  all := (List.append_nil _).symm
  front := List.prefix_refl _
  fits := began

theorem Given.same (given : Given before peer bytes) (capacity : next.capacity = peer.capacity)
    (presence : next.presence = peer.presence) (incoming : next.incoming = peer.incoming)
    (inbox : next.inbox = peer.inbox) : Given before next bytes where
  began := given.began
  capacity := capacity.trans given.capacity
  present := presence.trans given.present
  all := by rw [← given.all, received, received, incoming, inbox]
  front := inbox ▸ given.front
  fits := by rw [capacity, incoming]; exact given.fits

theorem Given.take (given : Given before peer bytes) (count : Nat) :
    Given before (peer.take count) bytes where
  began := given.began
  capacity := given.capacity
  present := given.present
  all := by simpa [received, Peer.take] using given.all
  front := by
    rw [Peer.take, Transcript.toList_append]
    exact given.front.trans (List.prefix_append ..)
  fits := by
    have fits := given.fits
    simp only [Peer.take, List.length_drop]
    omega

theorem Given.send (given : Given before peer bytes) (sent : List UInt8) :
    Given before (peer.send sent) bytes := by
  unfold Peer.send push
  split <;> exact given.same rfl rfl rfl rfl

theorem Given.length (given : Given before peer bytes) :
    bytes.length + (before.capacity - peer.incoming.length) = before.roomSince peer := by
  have all := congrArg List.length given.all
  have front := given.front.length_le
  have began := given.began
  have fits := given.fits
  rw [given.capacity] at fits
  simp only [received, List.length_append] at all
  rw [roomSince]
  omega

theorem Given.length_of_full (given : Given before peer bytes)
    (full : peer.capacity ≤ peer.incoming.length) : bytes.length = before.roomSince peer := by
  have length := given.length
  have capacity := given.capacity
  omega

theorem Given.scarce (given : Given before peer bytes)
    (full : peer.capacity ≤ peer.incoming.length) {whole : List UInt8}
    (some_left : bytes.length < whole.length) :
    ¬whole.length ≤ before.capacity - before.incoming.length := by
  have length := given.length_of_full full
  rw [roomSince] at length
  omega

theorem write?_cases {side : Side} {unsent : List UInt8} {event : Session.Event}
    (wrote : peer.write? side unsent = some (event, next)) :
    peer.presence ≠ .present ∧ (∃ fault, event = .writeFailed side fault) ∨
      ∃ count, 0 < count ∧ count ≤ unsent.length ∧ event = .accepted side count ∧
        peer.incoming.length + count ≤ peer.capacity ∧
          next = { peer with incoming := peer.incoming ++ unsent.take count } := by
  unfold write? at wrote
  split at wrote
  next absent =>
    obtain ⟨rfl, -⟩ := Prod.mk.inj (Option.some.inj wrote)
    exact .inl ⟨by simp [absent], _, rfl⟩
  next absent =>
    obtain ⟨rfl, -⟩ := Prod.mk.inj (Option.some.inj wrote)
    exact .inl ⟨by simp [absent], _, rfl⟩
  next =>
    split at wrote
    next => cases wrote
    next some_taken =>
      obtain ⟨rfl, rfl⟩ := Prod.mk.inj (Option.some.inj wrote)
      have length := List.length_take (i := peer.capacity - peer.incoming.length) (l := unsent)
      have positive := List.length_pos_iff.mpr some_taken
      refine .inr ⟨_, positive, by omega, rfl, by omega, ?_⟩
      rw [length, ← List.take_eq_take_min]

theorem Given.write {count : Nat} (given : Given before peer bytes) {unsent : List UInt8}
    (fits : peer.incoming.length + count ≤ peer.capacity) :
    Given before { peer with incoming := peer.incoming ++ unsent.take count }
      (bytes ++ unsent.take count) where
  began := given.began
  capacity := given.capacity
  present := given.present
  all := by
    have all := given.all
    simp only [received] at all ⊢
    rw [← List.append_assoc, all, List.append_assoc]
  front := given.front
  fits := by
    simp only [List.length_append, List.length_take]
    omega

theorem write?_eq_none {side : Side} {unsent : List UInt8} (stuck : peer.write? side unsent = none) :
    peer.presence = .present ∧ (unsent = [] ∨ peer.capacity ≤ peer.incoming.length) := by
  unfold write? at stuck
  split at stuck
  next => cases stuck
  next => cases stuck
  next present =>
    refine ⟨present, ?_⟩
    split at stuck
    next nothing =>
      rcases List.take_eq_nil_iff.mp nothing with none_free | nothing
      next => exact .inr (Nat.le_of_sub_eq_zero none_free)
      next => exact .inl nothing
    next => cases stuck

end

end Peer

namespace Scene

-- What can happen while a session rejects its client. What the session wants is answered before
-- time passes.
inductive Act where
  | proceeds
  | takes (count : Nat)
  | sends (bytes : List UInt8)
  | shuts
  | leaves (presence : Presence)
  | waits (milliseconds : Nat)

def Act.isProceeding : Act -> Bool
  | .proceeds => true
  | _ => false

def Act.isLeaving : Act -> Bool
  | .leaves _ => true
  | _ => false

def play? (scene : Scene) : Act -> Option Scene
  | .proceeds => scene.answered?
  | .takes count => some { scene with client := scene.client.take count }
  | .sends bytes => some { scene with client := scene.client.send bytes }
  | .shuts => some { scene with client := scene.client.shut }
  | .leaves presence => some { scene with client := scene.client.leave presence }
  | .waits milliseconds =>
      if scene.answered?.isSome then none else scene.happen? (.elapsed milliseconds)

def plays : Scene -> List Act -> Option Scene
  | scene, [] => some scene
  | scene, act :: later => do plays (<- scene.play? act) later

section

variable {scene next last : Scene} {act : Act} {acts : List Act} {event : Session.Event}
  {failure : Failure} {deadline : Nat}

theorem happen?_eq_some (happened : scene.happen? event = some next) :
    next = scene.withSession next.session ∧
      scene.session.step scene.context event = some next.session := by
  obtain ⟨session, stepped, rfl⟩ := Option.map_eq_some_iff.mp happened
  rw [session_withSession]
  exact ⟨rfl, stepped⟩

theorem happen?_of_step {session : Session}
    (stepped : scene.session.step scene.context event = some session) :
    scene.happen? event = some (scene.withSession session) :=
  congrArg (Option.map scene.withSession) stepped

theorem answer?_frame {want : Session.Want} (answered : scene.answer? want = some (event, next)) :
    event.waits = false ∧ next.session = scene.session ∧ next.context = scene.context := by
  cases want <;>
    grind [answer?, lookup, connect, Peer.read?, Peer.write?, Session.Event.waits,
      session_withPeer, context_withPeer]

theorem answered?_eq_some (answered : scene.answered? = some next) :
    ∃ event, event.waits = false ∧ next.context = scene.context ∧
      scene.session.step scene.context event = some next.session := by
  obtain ⟨⟨event, between⟩, found, happened⟩ := Option.bind_eq_some_iff.mp answered
  obtain ⟨want, -, answered⟩ := List.exists_of_findSome?_eq_some found
  obtain ⟨waits, session, context⟩ := answer?_frame answered
  obtain ⟨rest, stepped⟩ := happen?_eq_some happened
  rw [session, context] at stepped
  rw [rest, context_withSession, session_withSession]
  exact ⟨event, waits, context, stepped⟩

theorem play?_waits_eq_some {milliseconds : Nat}
    (played : scene.play? (.waits milliseconds) = some next) :
    scene.answered? = none ∧ next = scene.withSession next.session ∧
      scene.session.step scene.context (.elapsed milliseconds) = some next.session := by
  simp only [play?] at played
  split at played
  next => cases played
  next settled => exact ⟨Option.not_isSome_iff_eq_none.mp settled, happen?_eq_some played⟩

theorem play?_cases (played : scene.play? act = some next) :
    next.context = scene.context ∧
      (act.isProceeding = false ∧ next.session = scene.session ∨
        ∃ event, event.waits = !act.isProceeding ∧
          scene.session.step scene.context event = some next.session) := by
  cases act with
  | proceeds =>
    obtain ⟨event, waits, context, stepped⟩ := answered?_eq_some played
    exact ⟨context, .inr ⟨event, waits, stepped⟩⟩
  | waits milliseconds =>
    obtain ⟨-, rest, stepped⟩ := play?_waits_eq_some played
    rw [rest, context_withSession, session_withSession]
    exact ⟨rfl, .inr ⟨_, rfl, stepped⟩⟩
  | _ =>
    cases played
    exact ⟨rfl, .inl ⟨rfl, rfl⟩⟩

theorem rejecting_play {bytes : List UInt8} {left : Nat}
    (rejecting : scene.session.Rejecting failure bytes deadline left)
    (played : scene.play? act = some next) :
    ∃ later, next.session.Rejecting failure bytes deadline later ∧
      later + [act].countP Act.isProceeding ≤ left := by
  obtain ⟨-, ⟨idle, same⟩ | ⟨event, waits, stepped⟩⟩ := play?_cases played
  next => exact ⟨left, same ▸ rejecting, by simp [idle]⟩
  next =>
    obtain ⟨later, rejecting, fewer⟩ := rejecting.transition (Session.transition_of_step stepped)
    refine ⟨later, rejecting, ?_⟩
    cases proceeding : act.isProceeding <;>
      simpa [Session.answers, waits, proceeding, List.countP_cons] using fewer

theorem rejecting_plays {bytes : List UInt8} {left : Nat}
    (rejecting : scene.session.Rejecting failure bytes deadline left)
    (played : scene.plays acts = some last) :
    ∃ later, last.session.Rejecting failure bytes deadline later ∧
      later + acts.countP Act.isProceeding ≤ left := by
  induction acts generalizing scene left with
  | nil => exact ⟨left, Option.some.inj played ▸ rejecting, Nat.le_refl _⟩
  | cons act acts ih =>
    obtain ⟨next, first, played⟩ := Option.bind_eq_some_iff.mp played
    obtain ⟨between, rejecting, fewer⟩ := rejecting_play rejecting first
    obtain ⟨later, rejecting, fewest⟩ := ih rejecting played
    refine ⟨later, rejecting, ?_⟩
    have both : (act :: acts).countP Act.isProceeding =
        [act].countP Act.isProceeding + acts.countP Act.isProceeding := by
      rw [← List.countP_append, List.singleton_append]
    omega

theorem answered?_rejecting {stage : Session.RejectionStage}
    (phase : scene.session.phase = .rejecting failure stage deadline) :
    scene.answered? = (scene.answer? stage.want).bind fun (event, scene) => scene.happen? event := by
  cases stage <;> simp [answered?, Session.wants, phase, Session.RejectionStage.want]

theorem answer?_write (unsent : List UInt8) :
    scene.answer? (.write .client unsent) = (scene.client.write? .client unsent).map
      fun (event, peer) => (event, { scene with client := peer }) :=
  rfl

theorem over_or_full {bytes : List UInt8} {left : Nat}
    (rejecting : scene.session.Rejecting failure bytes deadline left)
    (settled : scene.answered? = none) :
    scene.session.result? = some (.error failure) ∨
      scene.client.presence = .present ∧ scene.client.capacity ≤ scene.client.incoming.length ∧
        scene.session.ledger.client.told.toList.length < bytes.length := by
  obtain ⟨setup, context, session, client, backend, connected, endedAt⟩ := scene
  cases rejecting with
  | @going clock stage ledger inTime some_left reply =>
    rw [answered?_rejecting rfl] at settled
    cases stage with
    | sending unsent =>
      rw [Session.RejectionStage.want, answer?_write] at settled
      cases wrote : client.write? .client unsent with
      | none =>
        have nonempty : unsent ≠ [] := fun nothing => some_left (nothing ▸ rfl)
        obtain ⟨present, full⟩ := Peer.write?_eq_none wrote
        refine .inr ⟨present, full.resolve_left nonempty, ?_⟩
        have positive := List.length_pos_iff.mpr nonempty
        rw [← reply, List.length_append]
        exact Nat.lt_add_of_pos_right positive
      | some answer =>
        obtain ⟨event, peer⟩ := answer
        rw [wrote, Option.map_some, Option.bind_some] at settled
        obtain ⟨-, fault, rfl⟩ | ⟨count, some_taken, within, rfl, -⟩ := Peer.write?_cases wrote
        next => cases settled
        next =>
          dsimp only at settled
          rw [happen?_of_step (Session.step_accepted_rejecting some_taken within clock)] at settled
          cases settled
    | flushing | shutting => cases settled
  | ended => exact .inl rfl

structure Attended (began : Nat) (bytes : List UInt8) (before : Peer) (scene : Scene) : Prop where
  given : before.Given scene.client scene.session.ledger.client.told.toList
  whole : scene.session.result?.isSome = true →
    scene.session.ledger.client.told.toList = bytes ∨
      began + Session.rejectionLimit ≤ scene.session.clock
  prompt : bytes.length ≤ before.capacity - before.incoming.length →
    scene.session.clock = began ∨
      scene.session.result?.isSome = true ∧ scene.session.ledger.client.told.toList = bytes

section

variable {bytes : List UInt8} {before : Peer} {began left : Nat}

theorem attended_withSession {session : Session}
    (given : before.Given scene.client session.ledger.client.told.toList)
    (whole : session.result?.isSome = true → session.ledger.client.told.toList = bytes ∨
      began + Session.rejectionLimit ≤ session.clock)
    (prompt : bytes.length ≤ before.capacity - before.incoming.length →
      session.clock = began ∨
        session.result?.isSome = true ∧ session.ledger.client.told.toList = bytes) :
    Attended began bytes before (scene.withSession session) := by
  unfold withSession
  split
  next => exact ⟨given.same rfl rfl rfl rfl, whole, prompt⟩
  next => exact ⟨given, whole, prompt⟩

theorem Attended.proceed (attended : Attended began bytes before scene)
    (rejecting : scene.session.Rejecting failure bytes deadline left)
    (answered : scene.answered? = some next) : Attended began bytes before next := by
  obtain ⟨setup, context, session, client, backend, connected, endedAt⟩ := scene
  obtain ⟨given, -, prompt⟩ := attended
  cases rejecting with
  | @going clock stage ledger inTime some_left reply =>
    have early (fits : bytes.length ≤ before.capacity - before.incoming.length) : clock = began :=
      (prompt fits).resolve_right fun ended => Bool.false_ne_true ended.1
    rw [answered?_rejecting rfl] at answered
    cases stage with
    | sending unsent =>
      rw [Session.RejectionStage.want, answer?_write] at answered
      obtain ⟨⟨event, written⟩, found, happened⟩ := Option.bind_eq_some_iff.mp answered
      obtain ⟨⟨_, peer⟩, wrote, same⟩ := Option.map_eq_some_iff.mp found
      obtain ⟨rfl, rfl⟩ := Prod.mk.inj same
      obtain ⟨absent, -⟩ | ⟨count, some_taken, within, rfl, fits, rfl⟩ := Peer.write?_cases wrote
      next => exact absurd given.present absent
      next =>
        dsimp only at happened
        rw [happen?_of_step (Session.step_accepted_rejecting some_taken within clock)] at happened
        obtain rfl := Option.some.inj happened
        refine attended_withSession ?_ nofun fun room => .inl (early room)
        simpa [Ledger.tell, Ledger.update] using given.write fits
    | flushing =>
      obtain rfl := Option.some.inj answered
      exact attended_withSession given nofun fun room => .inl (early room)
    | shutting =>
      obtain rfl := Option.some.inj answered
      have all : ledger.client.told.toList = bytes := (List.append_nil _).symm.trans reply
      exact attended_withSession (given.same rfl rfl rfl rfl) (fun _ => .inl all)
        fun _ => .inr ⟨rfl, all⟩
  | ended => cases answered

theorem Attended.all (attended : Attended began bytes before scene)
    (ended : scene.session.result?.isSome = true)
    (room : bytes.length ≤ before.capacity - before.incoming.length) :
    scene.session.ledger.client.told.toList = bytes := by
  rcases attended.prompt room with instant | all
  next =>
    apply (attended.whole ended).resolve_right
    rw [instant]
    exact Nat.not_le_of_gt (Nat.lt_add_of_pos_right (by decide))
  next => exact all.2

theorem Attended.wait {milliseconds : Nat} (attended : Attended began bytes before scene)
    (rejecting : scene.session.Rejecting failure bytes (began + Session.rejectionLimit) left)
    (played : scene.play? (.waits milliseconds) = some next) : Attended began bytes before next := by
  obtain ⟨settled, rest, stepped⟩ := play?_waits_eq_some played
  have over_or_full := over_or_full rejecting settled
  have all := attended.all
  obtain ⟨setup, context, session, client, backend, connected, endedAt⟩ := scene
  obtain ⟨given, whole, -⟩ := attended
  rw [rest]
  cases rejecting with
  | @going clock stage ledger inTime some_left reply =>
    obtain ⟨-, full, some_untold⟩ := over_or_full.resolve_left nofun
    have scarce := given.scarce full some_untold
    have rung := (Option.some.inj stepped).symm
    by_cases early : clock + milliseconds < began + Session.rejectionLimit
    next =>
      rw [rung, Session.ring_rejecting early]
      exact attended_withSession given nofun fun room => absurd room scarce
    next =>
      rw [rung, Session.ring_rejecting_late early]
      exact attended_withSession given (fun _ => .inr (Nat.le_of_not_lt early)) fun room =>
        absurd room scarce
  | @ended clock ledger front =>
    have same : next.session = ⟨clock + milliseconds, .over (.error failure), ledger⟩ :=
      (Option.some.inj stepped).symm
    rw [same]
    refine attended_withSession given ?_ fun room => .inr ⟨rfl, all rfl room⟩
    exact fun ended => (whole ended).imp_right fun late => Nat.le_add_right_of_le late

theorem Attended.play (attended : Attended began bytes before scene)
    (rejecting : scene.session.Rejecting failure bytes (began + Session.rejectionLimit) left)
    (played : scene.play? act = some next) (stays : act.isLeaving = false) :
    Attended began bytes before next := by
  cases act with
  | proceeds => exact attended.proceed rejecting played
  | waits milliseconds => exact attended.wait rejecting played
  | takes count =>
    obtain rfl := Option.some.inj played
    exact { attended with given := attended.given.take count }
  | sends bytes =>
    obtain rfl := Option.some.inj played
    exact { attended with given := attended.given.send bytes }
  | shuts =>
    obtain rfl := Option.some.inj played
    exact { attended with given := attended.given.same rfl rfl rfl rfl }
  | leaves => cases stays

theorem attended_plays (attended : Attended began bytes before scene)
    (rejecting : scene.session.Rejecting failure bytes (began + Session.rejectionLimit) left)
    (played : scene.plays acts = some last) (stays : ∀ act ∈ acts, act.isLeaving = false) :
    Attended began bytes before last := by
  induction acts generalizing scene left with
  | nil => exact Option.some.inj played ▸ attended
  | cons act acts ih =>
    obtain ⟨next, first, played⟩ := Option.bind_eq_some_iff.mp played
    obtain ⟨between, later, -⟩ := rejecting_play rejecting first
    have still := attended.play rejecting first (stays act (List.mem_cons_self ..))
    exact ih still later played fun other found => stays other (List.mem_cons_of_mem _ found)

end

structure Stays (scene : Scene) (acts : List Act) : Prop where
  present : scene.client.presence = .present
  fits : scene.client.incoming.length ≤ scene.client.capacity
  stays : ∀ act ∈ acts, act.isLeaving = false

/-- A session and its client part: the session ends with its failure in time, after a limited number
of steps, and a client that stays is given as much of the rejection as it has room for. -/
structure Parts (failure : Failure) (scene : Scene) (acts : List Act) (last : Scene) : Prop where
  outlasts : Session.Outlasts scene.context failure scene.session last.session
  brief : acts.countP Act.isProceeding ≤
    (failure.rejection scene.context.service.protocol).length + 2
  passes : last.answered? = none → ∀ milliseconds,
    (last.play? (.waits milliseconds)).isSome = true
  gone : last.client.presence ≠ .present → last.answered? = none →
    last.session.result? = some (.error failure)
  given : scene.Stays acts →
    scene.client.Given last.client last.session.ledger.client.told.toList
  most : scene.Stays acts → last.answered? = none →
    last.session.clock < scene.session.clock + Session.rejectionLimit →
      last.session.ledger.client.told.toList =
        (failure.rejection scene.context.service.protocol).take
          (scene.client.roomSince last.client)
  whole : scene.Stays acts → last.answered? = none →
    (failure.rejection scene.context.service.protocol).length ≤
        scene.client.capacity - scene.client.incoming.length →
      last.session.ledger.client.told.toList =
          failure.rejection scene.context.service.protocol ∧
        last.session.result? = some (.error failure)

theorem parts_of_plays (dismisses : Session.Dismisses scene.context failure scene.session)
    (untold : scene.session.ledger.client.told.toList = [])
    (played : scene.plays acts = some last) : Parts failure scene acts last := by
  have rejecting := dismisses.rejecting untold
  obtain ⟨left, later, fewer⟩ := rejecting_plays rejecting played
  have attended (stays : scene.Stays acts) : Attended scene.session.clock
      (failure.rejection scene.context.service.protocol) scene.client last := by
    refine attended_plays ⟨?_, ?_, fun _ => .inl rfl⟩ rejecting played stays.stays
    next =>
      rw [untold]
      exact .start stays.fits stays.present
    next =>
      intro ended
      rw [Session.result?, dismisses] at ended
      cases ended
  refine ⟨later.outlasts, by omega, ?_, ?_, fun stays => (attended stays).given, ?_, ?_⟩
  next =>
    intro settled milliseconds
    rw [play?, settled]
    rfl
  next => exact fun gone settled => (over_or_full later settled).resolve_right fun full => gone full.1
  next =>
    intro stays settled inTime
    obtain ⟨given, whole, -⟩ := attended stays
    rcases over_or_full later settled with ended | ⟨-, full, -⟩
    next =>
      have all := (whole (by rw [ended]; rfl)).resolve_right (Nat.not_le_of_gt inTime)
      have length := given.length
      rw [all] at length ⊢
      exact (List.take_of_length_le (by omega)).symm
    next =>
      rw [← given.length_of_full full]
      exact List.prefix_iff_eq_take.mp later.front
  next =>
    intro stays settled room
    have attended := attended stays
    rcases over_or_full later settled with ended | ⟨-, full, some_left⟩
    next => exact ⟨attended.all (by rw [ended]; rfl) room, ended⟩
    next => exact absurd room (attended.given.scarce full some_left)

end

end Scene

namespace Session

section

variable {context : Context} {now : Nat} {failure : Failure} {session : Session}
  {events : List Event}

/-- A session that fails has failed when its rejection begins. Whatever happens from then on, and
whatever the client does, it ends with the same failure, when the time for the rejection is over if
not before, and the client is given the front of the rejection that it has room for. -/
theorem failures_outlast_rejections
    (ran : run context (start context now) events = some session)
    (blamed : session.blame? = some failure) :
    ∃ early late rejected, events = early ++ late ∧
      run context (start context now) early = some rejected ∧
      Dismisses context failure rejected ∧
      (∀ later last, run context (start context now) (early ++ later) = some last →
        Outlasts context failure rejected last) ∧
      ∀ scene : Scene, scene.context = context → scene.session = rejected →
        ∀ acts last, scene.plays acts = some last → scene.Parts failure acts last := by
  have spoken : session.voice? = some .relay := voice?_of_blame? blamed
  obtain ⟨early, late, rejected, reason, rfl, began, dismisses, ended⟩ :=
    exists_dismissal ran nofun spoken
  have untold := dismisses.untold (flow_run began)
  have rejecting := dismisses.rejecting untold
  obtain rfl : reason = failure := by
    obtain ⟨left, later, -⟩ := rejecting.run ended
    exact Option.some.inj (later.blame?.symm.trans blamed)
  refine ⟨early, late, rejected, rfl, began, dismisses, ?_, ?_⟩
  next =>
    intro later last ran
    rw [run_append, began, Option.bind_some] at ran
    obtain ⟨left, later, -⟩ := rejecting.run ran
    exact later.outlasts
  next =>
    rintro scene rfl rfl acts last played
    exact Scene.parts_of_plays dismisses untold played

-- The backend fails when it is sent more than the first bytes.
def brokenReplay : List Event :=
  helloApproach ++ [.attempted none, .elapsed 250, .accepted .backend 40]

-- The client's connection holds three bytes.
def narrowScene (session : Session) : Scene where
  setup := {
    service := helloContext.service
    dialer := fun _ => helloContext.dialer
    host := .isolated }
  context := helloContext
  session
  client := { capacity := 3 }
  backend := {}

def narrowParting (acts : List Scene.Act) : Option Scene :=
  (run helloContext (start helloContext 0)
    (brokenReplay ++ [.writeFailed .backend .brokenPipe])).bind fun rejected =>
      (narrowScene rejected).plays acts

def slowReading : List Scene.Act := [.proceeds, .waits 400, .takes 2, .proceeds]

theorem narrowParting_keeps_failure : ∃ waiting last,
    narrowParting slowReading = some waiting ∧ waiting.client.received = [21, 3, 1, 0, 2] ∧
    narrowParting (slowReading ++ [.waits 600]) = some last ∧
      last.session.result? = some (.error (.replay "a" .brokenPipe)) := by
  have reading : (narrowParting slowReading).map (fun waiting =>
      (waiting.answered?.isSome, waiting.session.clock, waiting.client.inbox.toList)) =
        some (false, 650, [21, 3]) := by
    decide +kernel
  have reached : (narrowParting (slowReading ++ [.waits 600])).map (·.session.clock) = some 1250 := by
    decide +kernel
  have blamed : (run helloContext (start helloContext 0)
      (brokenReplay ++ [.writeFailed .backend .brokenPipe])).bind blame? =
        some (.replay "a" .brokenPipe) := by
    decide +kernel
  have silent : (run helloContext (start helloContext 0) brokenReplay).bind voice? = none := by
    decide +kernel
  obtain ⟨session, ran, blamed⟩ := Option.bind_eq_some_iff.mp blamed
  obtain ⟨early, late, rejected, split, began, dismisses, -, parts⟩ :=
    failures_outlast_rejections ran blamed
  -- Before its last event the session has not failed yet.
  obtain rfl : late = [] := by
    rcases List.eq_nil_or_concat late with rfl | ⟨init, final, rfl⟩
    next => rfl
    next =>
      rw [List.concat_eq_append, ← List.append_assoc] at split
      obtain ⟨between, front, -⟩ := Option.bind_eq_some_iff.mp ((run_append ..).symm.trans ran)
      have later := front
      rw [(List.append_inj' split rfl).1, run_append, began, Option.bind_some] at later
      have spoken : rejected.voice? = some .relay := by rw [voice?, dismisses]
      rw [front, Option.bind_some, voice?_run later spoken] at silent
      cases silent
  rw [List.append_nil] at split
  obtain rfl : rejected = session := by
    rw [← split, ran] at began
    exact (Option.some.inj began).symm
  obtain ⟨waiting, played, waited⟩ := Option.map_eq_some_iff.mp reading
  obtain ⟨last, ended, passed⟩ := Option.map_eq_some_iff.mp reached
  have playing := played
  have ending := ended
  rw [narrowParting, ran, Option.bind_some] at playing ending
  have parted := parts (narrowScene rejected) rfl rfl _ _ playing
  have finished := parts (narrowScene rejected) rfl rfl _ _ ending
  have clock : rejected.clock = 250 := clock_run ran
  have stays : (narrowScene rejected).Stays slowReading := ⟨rfl, Nat.zero_le _, by decide⟩
  obtain ⟨settled, now, inbox⟩ : waiting.answered?.isSome = false ∧ waiting.session.clock = 650 ∧
      waiting.client.inbox.toList = [21, 3] := by
    simpa using waited
  refine ⟨waiting, last, played, ?_, ended, finished.outlasts.inTime ?_⟩
  next =>
    have room : (narrowScene rejected).client.roomSince waiting.client = 5 := by
      rw [Peer.roomSince, inbox]
      rfl
    have most := parted.most stays (Option.not_isSome_iff_eq_none.mp (by simp [settled])) (by
      rw [now]
      exact clock ▸ (by decide))
    rw [(parted.given stays).all, most, room]
    rfl
  next =>
    rw [passed]
    exact clock ▸ (by decide)

end

end Session

end SniffingRelay
