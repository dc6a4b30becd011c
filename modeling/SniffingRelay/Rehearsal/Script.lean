import SniffingRelay.Rehearsal.Scene

set_option autoImplicit false

namespace SniffingRelay

inductive Cue where
  | send (side : Side) (bytes : List UInt8)
  | shut (side : Side)
  -- The client goes away.
  | drop
  -- The backend tears its connection down.
  | reset
  | advance (milliseconds : Nat)
  -- So many bytes in all have come back.
  | await (side : Side) (count : Nat)
  | awaitEnd (side : Side)
  | awaitConnection
  | awaitResult
  deriving DecidableEq, Repr

def Cue.needsBackend : Cue -> Bool
  | .send .backend _ | .shut .backend | .await .backend _ | .awaitEnd .backend => true
  | .reset | .awaitConnection => true
  | _ => false

/-- What a cue came to. -/
inductive Outcome where
  | sent (accepted : Bool)
  | seen
  | nothing
  deriving DecidableEq, Repr

/-- What can be seen from the outside after a cue. -/
structure Note where
  outcome : Outcome
  clock : Nat
  isOver : Bool
  received : Transcript
  deriving Repr

/-- What came of a session in the end. -/
structure Report where
  notes : List Note
  result : Except Failure Summary
  endedAt : Nat
  received : List UInt8
  dials : List String
  -- Whether the backend was connected to.
  connected : Bool
  delivered : Transcript

namespace Scene

def wait (scene : Scene) (done : Scene -> Bool) : Except Obstacle (Scene × Outcome) :=
  let scene := scene.exhaust
  if done scene then .ok (scene, .seen) else .error .waitsForever

def perform (scene : Scene) (cue : Cue) : Except Obstacle (Scene × Outcome) :=
  if cue.needsBackend && !scene.exhaust.connected then .error .backendNotConnected
  else
    match cue with
    | .send side bytes =>
        let (scene, accepted) := scene.send side bytes
        .ok (scene, .sent accepted)
    | .shut side => .ok (scene.act side .shut, .sent true)
    | .drop => .ok ((scene.work Scene.stretch).1.act .client (·.leave .gone), .nothing)
    | .reset => .ok (scene.act .backend (·.leave .reset), .sent (!scene.backend.released))
    | .advance milliseconds => .ok (scene.advance milliseconds, .nothing)
    | .await side count => scene.wait fun scene => count ≤ (scene.peer side).inbox.size
    | .awaitEnd side => scene.wait fun scene => (scene.peer side).sawEnd
    | .awaitConnection => scene.wait Scene.connected
    | .awaitResult => scene.wait Scene.isOver

def note (scene : Scene) (outcome : Outcome) : Note where
  outcome
  clock := scene.clock
  isOver := scene.isOver
  received := scene.client.inbox

def play : Scene -> List Cue -> Except Obstacle (Scene × List Note)
  | scene, [] => .ok (scene, [])
  | scene, cue :: later => do
      let (scene, outcome) <- scene.perform cue
      let (last, notes) <- play scene later
      return (last, scene.note outcome :: notes)

-- Alarms that the end of a session may have to wait for.
def lastAlarms : Nat := 8

def report (scene : Scene) (cues : List Cue) : Except Obstacle Report := do
  let (scene, notes) <- scene.play cues
  let scene := scene.outlast lastAlarms
  match scene.session.result?, scene.endedAt with
  | some result, some endedAt =>
      return {
        notes, result, endedAt
        received := scene.client.received
        dials := scene.session.ledger.dials
        connected := scene.connected
        delivered := scene.session.ledger.backend.told }
  | _, _ => throw .waitsForever

end Scene

def Setup.rehearse (setup : Setup) (client : SocketAddress) (cues : List Cue) :
    Except Obstacle Report := do
  setup.check
  (setup.sceneFor client 0).report cues

end SniffingRelay
