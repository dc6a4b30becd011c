import SniffingRelay.Proofs.Session.Transition

set_option autoImplicit false

namespace SniffingRelay.Session

def Event.carried (side : Side) : Event -> List UInt8
  | .received source bytes => if source = side then bytes else []
  | _ => []

def arrived (side : Side) (events : List Event) : List UInt8 := events.flatMap (Event.carried side)

def Event.connects : Event -> Bool
  | .attempted none => true
  | _ => false

def isConnected (events : List Event) : Bool := events.any Event.connects

def approach (events : List Event) : List Event := events.takeWhile (!·.connects)

def relayed (events : List Event) : List Event := events.dropWhile (!·.connects)

def sniffed (events : List Event) : List UInt8 := arrived .client (approach events)

theorem arrived_append (side : Side) (events later : List Event) :
    arrived side (events ++ later) = arrived side events ++ arrived side later :=
  List.flatMap_append

theorem arrived_singleton (side : Side) (event : Event) : arrived side [event] = event.carried side :=
  List.flatMap_singleton ..

theorem isConnected_append (events later : List Event) :
    isConnected (events ++ later) = (isConnected events || isConnected later) :=
  List.any_append

theorem isConnected_append_of_silent (events : List Event) {event : Event}
    (unanswered : event.connects = false) : isConnected (events ++ [event]) = isConnected events := by
  rw [isConnected_append, isConnected, isConnected, List.any_cons, unanswered, List.any_nil,
    Bool.or_false, Bool.or_false]

theorem approach_append_of_unconnected {events : List Event}
    (unconnected : isConnected events = false) (later : List Event) :
    approach (events ++ later) = events ++ approach later := by
  rw [isConnected, List.any_eq_false] at unconnected
  apply List.takeWhile_append_of_pos
  intro event found
  simpa using unconnected event found

theorem approach_append_of_connected {events : List Event} (connected : isConnected events = true)
    (later : List Event) : approach (events ++ later) = approach events := by
  induction events with
  | nil => simp [isConnected] at connected
  | cons event events ih =>
    rw [isConnected, List.any_cons] at connected
    cases answer : event.connects with
    | true => simp [approach, answer]
    | false =>
      rw [answer, Bool.false_or] at connected
      simpa [approach, answer] using ih connected

theorem relayed_append {events : List Event} (connected : isConnected events = true)
    (later : List Event) : relayed (events ++ later) = relayed events ++ later := by
  induction events with
  | nil => simp [isConnected] at connected
  | cons event events ih =>
    rw [isConnected, List.any_cons] at connected
    cases answer : event.connects with
    | true => simp [relayed, answer]
    | false =>
      rw [answer, Bool.false_or] at connected
      simpa [relayed, answer] using ih connected

theorem sniffed_eq_arrived {events : List Event} (unconnected : isConnected events = false) :
    sniffed events = arrived .client events := by
  have all : approach (events ++ []) = events ++ [] := approach_append_of_unconnected unconnected []
  rw [List.append_nil] at all
  rw [sniffed, all]

theorem sniffed_append_of_connected {events : List Event} (connected : isConnected events = true)
    (later : List Event) : sniffed (events ++ later) = sniffed events := by
  rw [sniffed, sniffed, approach_append_of_connected connected]

-- The answer of a backend brings no bytes, so it does not matter on which side it is counted.
theorem sniffed_append_of_unconnected {events : List Event} (unconnected : isConnected events = false)
    (event : Event) : sniffed (events ++ [event]) = sniffed events ++ event.carried .client := by
  have last : arrived .client (approach [event]) = event.carried .client := by
    cases answer : event.connects with
    | false => simp [approach, answer, arrived]
    | true =>
      cases event with
      | attempted refusal => simp [approach, answer, arrived, Event.carried]
      | _ => simp [Event.connects] at answer
  rw [sniffed, approach_append_of_unconnected unconnected, arrived_append, last,
    sniffed_eq_arrived unconnected]

theorem sniffed_append_arrived_relayed (events : List Event) :
    sniffed events ++ arrived .client (relayed events) = arrived .client events := by
  rw [sniffed, ← arrived_append, approach, relayed, List.takeWhile_append_dropWhile]

def Event.taken (offered : List UInt8) (side : Side) : Event -> List UInt8
  | .accepted sink count => if sink = side then offered.take count else []
  | _ => []

def Event.shuts (side : Side) : Event -> Bool
  | .shut sink => sink = side
  | _ => false

def Want.offer? (side : Side) : Want -> Option (List UInt8)
  | .write sink bytes => if sink = side then some bytes else none
  | _ => none

def offered (context : Context) (session : Session) (side : Side) : List UInt8 :=
  ((session.wants context).findSome? (Want.offer? side)).getD []

def written (context : Context) (side : Side) : Session -> List Event -> List UInt8
  | _, [] => []
  | session, event :: later =>
      event.taken (session.offered context side) side ++
        ((session.step context event).map fun next => written context side next later).getD []

theorem offered_splicing (context : Context) (clock : Nat) (splice : Splice) (ledger : Ledger) :
    offered context ⟨clock, .splicing splice, ledger⟩ = splice.offered := by
  funext side
  obtain ⟨host, backend, replayed, ⟨_, up⟩, ⟨_, down⟩, watch⟩ := splice
  cases side <;> cases up <;> cases down <;> rfl

section

variable (ledger : Ledger) (side sink : Side) (bytes : List UInt8)

theorem traffic_hear : (ledger.hear sink bytes).traffic side =
    if sink = side then { ledger.traffic side with heard := (ledger.traffic side).heard.append bytes }
    else ledger.traffic side := by
  cases sink <;> cases side <;> rfl

theorem traffic_tell : (ledger.tell sink bytes).traffic side =
    if sink = side then { ledger.traffic side with told := (ledger.traffic side).told.append bytes }
    else ledger.traffic side := by
  cases sink <;> cases side <;> rfl

theorem traffic_shut : (ledger.shut sink).traffic side =
    if sink = side then { ledger.traffic side with shuts := (ledger.traffic side).shuts + 1 }
    else ledger.traffic side := by
  cases sink <;> cases side <;> rfl

variable (pending : Side -> List UInt8) (event : Event)

theorem heard_record : ((record ledger pending event).traffic side).heard.toList =
    (ledger.traffic side).heard.toList ++ event.carried side := by
  cases event with
  | received source bytes =>
    simp only [record, traffic_hear, Event.carried]
    split <;> simp
  | accepted sink count =>
    simp only [record, traffic_tell, Event.carried]
    split <;> simp
  | shut sink =>
    simp only [record, traffic_shut, Event.carried]
    split <;> simp
  | _ => exact (List.append_nil _).symm

theorem told_record : ((record ledger pending event).traffic side).told.toList =
    (ledger.traffic side).told.toList ++ event.taken (pending side) side := by
  cases event with
  | received source bytes =>
    simp only [record, traffic_hear, Event.taken]
    split <;> simp
  | accepted sink count =>
    simp only [record, traffic_tell, Event.taken]
    split <;> simp_all
  | shut sink =>
    simp only [record, traffic_shut, Event.taken]
    split <;> simp
  | _ => exact (List.append_nil _).symm

theorem shuts_record : ((record ledger pending event).traffic side).shuts =
    (ledger.traffic side).shuts + (event.shuts side).toNat := by
  cases event with
  | received source bytes =>
    simp only [record, traffic_hear, Event.shuts]
    split <;> rfl
  | accepted sink count =>
    simp only [record, traffic_tell, Event.shuts]
    split <;> rfl
  | shut sink =>
    simp only [record, traffic_shut, Event.shuts]
    split <;> simp_all
  | _ => rfl

end

section

variable (context : Context) (session : Session) (side : Side)

theorem traffic_dial (host : String) :
    (dial context session host).ledger.traffic side = session.ledger.traffic side := by
  unfold dial
  dsimp only
  split <;> cases side <;> rfl

theorem traffic_route (result : Except Failure String) :
    (route context session result).ledger.traffic side = session.ledger.traffic side := by
  unfold route
  split
  next => rfl
  next =>
    split
    next => rfl
    next =>
      split
      next => exact traffic_dial context session side _
      next => rfl

theorem ledger_tryNext (dialing : Dialing) (deadline : Nat) (error : DialError)
    (targets : List SocketAddress) :
    (tryNext context session dialing deadline error targets).ledger = session.ledger := by
  cases targets <;> rfl

theorem ledger_settle (splice : Splice) : (settle session splice).ledger = session.ledger := by
  unfold settle
  split <;> rfl

theorem ledger_ring : (ring context session).ledger = session.ledger := by
  unfold ring
  split
  case h_4 =>
    split
    next => rfl
    next => split <;> rfl
  case h_5 | h_6 => rfl
  all_goals split <;> rfl

end

-- Only the event and what was offered decide; the ledger adds nothing of its own.
theorem Transition.traffic {context : Context} {session next : Session} {event : Event}
    (stepped : Transition context session event next) (side : Side) :
    next.ledger.traffic side =
      (record session.ledger (session.offered context) event).traffic side := by
  cases stepped with
  | sniffed | clientFailed | clientEnded => exact traffic_route ..
  | resolved => rw [ledger_tryNext]; rfl
  | refused => rw [ledger_tryNext]; cases side <;> rfl
  | connected => cases side <;> rfl
  | moved => rw [ledger_settle, offered_splicing]
  | elapsed => rw [ledger_ring]; rfl
  | replaying | rejecting => rfl
  | @replayed _ _ _ unsent ledger =>
    change _ = (ledger.tell .backend (unsent.take unsent.length)).traffic side
    rw [List.take_length]
    rfl
  | @rejected _ _ _ unsent ledger =>
    change _ = (ledger.tell .client (unsent.take unsent.length)).traffic side
    rw [List.take_length]
  | read | interrupted | unresolved | replayFailed | rejectionFlushed | rejectionShut
    | rejectionFailed => rfl

theorem Transition.heard {context : Context} {session next : Session} {event : Event}
    (stepped : Transition context session event next) (side : Side) :
    (next.ledger.traffic side).heard.toList =
      (session.ledger.traffic side).heard.toList ++ event.carried side := by
  rw [stepped.traffic, heard_record]

theorem Transition.shuts {context : Context} {session next : Session} {event : Event}
    (stepped : Transition context session event next) (side : Side) :
    (next.ledger.traffic side).shuts =
      (session.ledger.traffic side).shuts + (event.shuts side).toNat := by
  rw [stepped.traffic, shuts_record]

section

variable {context : Context} {now : Nat} {events : List Event} {session last : Session}

theorem heard_run (ran : run context (start context now) events = some session) (side : Side) :
    (session.ledger.traffic side).heard.toList = arrived side events := by
  refine run_invariant (fun history session =>
    (session.ledger.traffic side).heard.toList = arrived side history) ?_ ?_ ran
  next =>
    intro history session event next agrees stepped
    rw [stepped.heard, agrees, arrived_append, arrived_singleton]
  next => cases side <;> rfl

theorem shuts_run (ran : run context (start context now) events = some session) (side : Side) :
    (session.ledger.traffic side).shuts = events.countP (Event.shuts side) := by
  refine run_invariant (fun history session =>
    (session.ledger.traffic side).shuts = history.countP (Event.shuts side)) ?_ ?_ ran
  next =>
    intro history session event next agrees stepped
    rw [stepped.shuts, agrees, List.countP_append, List.countP_singleton]
    cases event.shuts side <;> rfl
  next => cases side <;> rfl

theorem told_run (ran : run context session events = some last) (side : Side) :
    (last.ledger.traffic side).told.toList =
      (session.ledger.traffic side).told.toList ++ written context side session events := by
  induction events generalizing session with
  | nil =>
    obtain rfl := Option.some.inj ran
    exact (List.append_nil _).symm
  | cons event events ih =>
    obtain ⟨next, stepped, ran⟩ := Option.bind_eq_some_iff.mp ran
    rw [ih ran, (transition_of_step stepped).traffic, told_record, written, stepped,
      List.append_assoc]
    rfl

end

end SniffingRelay.Session
