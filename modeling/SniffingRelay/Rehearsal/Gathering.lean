import SniffingRelay.Listener.Accounts
import SniffingRelay.Rehearsal.Script

set_option autoImplicit false

namespace SniffingRelay

structure Guest where
  scene : Scene
  -- Whether the end of the session is in the accounts.
  counted : Bool := false

structure Gathering where
  setup : Setup
  -- Where the listener's clients come from.
  client : SocketAddress
  clock : Nat := 0
  accounts : Accounts := {}
  -- In the order in which they came.
  guests : List Guest := []

inductive GatheringCue where
  | enter
  | send (guest : Nat) (bytes : List UInt8)
  | shut (guest : Nat)
  | await (guest count : Nat)
  | awaitClosed (guest : Nat)
  | advance (milliseconds : Nat)
  deriving DecidableEq, Repr

/-- What a cue came to. -/
inductive GatheringNote where
  | entered (accounts : Accounts)
  | sent (accepted : Bool)
  | seen
  | closed (received : List UInt8) (accounts : Accounts)
  | nothing
  deriving Repr

namespace Gathering

def count (gathering : Gathering) : Gathering :=
  gathering.guests.zipIdx.foldl (fun gathering (guest, index) =>
    match guest.scene.session.result? with
    | some result =>
        if guest.counted then gathering
        else
          { gathering with
            accounts := gathering.accounts.postAll (Entry.onResult result)
            guests := gathering.guests.set index { guest with counted := true } }
    | none => gathering) gathering

def enter (gathering : Gathering) : Except Obstacle Gathering :=
  if gathering.setup.host.reaches gathering.client.ip then
    let guest : Guest :=
      { scene := (gathering.setup.sceneFor gathering.client gathering.clock).settle }
    let accounts := gathering.accounts.postAll Entry.onArrival
    .ok (count { gathering with accounts, guests := gathering.guests ++ [guest] })
  else .error .listenerNotReached

def guest (gathering : Gathering) (index : Nat) : Except Obstacle Guest :=
  match gathering.guests[index]? with
  | some guest => .ok guest
  | none => .error .waitsForever

def withScene (gathering : Gathering) (index : Nat) (scene : Scene) : Gathering :=
  let guests := gathering.guests.modify index fun guest => { guest with scene }
  count { gathering with guests }

def advance (gathering : Gathering) (milliseconds : Nat) : Gathering :=
  let guests := gathering.guests.map fun guest =>
    { guest with scene := guest.scene.advance milliseconds }
  count { gathering with clock := gathering.clock + milliseconds, guests }

def perform (gathering : Gathering) (cue : GatheringCue) :
    Except Obstacle (Gathering × GatheringNote) := do
  match cue with
  | .enter =>
      let gathering <- gathering.enter
      return (gathering, .entered gathering.accounts)
  | .send index bytes =>
      let guest <- gathering.guest index
      let (scene, accepted) := guest.scene.send .client bytes
      return (gathering.withScene index scene, .sent accepted)
  | .shut index =>
      let guest <- gathering.guest index
      return (gathering.withScene index (guest.scene.act .client .shut), .sent true)
  | .await index count =>
      let guest <- gathering.guest index
      let (scene, _) <- guest.scene.wait fun scene => count ≤ scene.client.inbox.size
      return (gathering.withScene index scene, .seen)
  | .awaitClosed index =>
      let guest <- gathering.guest index
      let (scene, _) <- guest.scene.wait Scene.isOver
      let gathering := gathering.withScene index scene
      return (gathering, .closed scene.client.received gathering.accounts)
  | .advance milliseconds => return (gathering.advance milliseconds, .nothing)

def play : Gathering -> List GatheringCue -> Except Obstacle (Gathering × List GatheringNote)
  | gathering, [] => .ok (gathering, [])
  | gathering, cue :: later => do
      let (gathering, note) <- gathering.perform cue
      let (last, notes) <- play gathering later
      return (last, note :: notes)

def connected (gathering : Gathering) : Nat :=
  gathering.guests.countP fun guest => guest.scene.connected

end Gathering

def Setup.gather (setup : Setup) (client : SocketAddress) (cues : List GatheringCue) :
    Except Obstacle (Gathering × List GatheringNote) := do
  setup.check
  if (setup.host.bind (.ofIp 0 client.ip)).isSome then throw .listenerNotBound
  { setup, client : Gathering }.play cues

end SniffingRelay
