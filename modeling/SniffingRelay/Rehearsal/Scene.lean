import SniffingRelay.Rehearsal.Host
import SniffingRelay.Rehearsal.Peer

set_option autoImplicit false

-- One session between simulated peers, with a clock that moves only when it is told to. What can
-- happen at a time happens before the clock moves on.

namespace SniffingRelay

/-- How a backend treats those who connect. -/
inductive Manner where
  | attentive
  | echoing
  -- Connecting to it never completes.
  | stalling
  -- It never reads.
  | holding
  deriving DecidableEq, Repr

structure BackendSetup where
  address : SocketAddress
  manner : Manner := .attentive
  deriving DecidableEq, Repr

def BackendSetup.on (address : Ip) (manner : Manner) : BackendSetup where
  address := .ofIp 49152 address
  manner

structure Setup where
  service : Service
  -- The dialer for a client and a host.
  dialer : SocketAddress -> String -> Except DialError Dialer
  host : Host
  backend : Option BackendSetup := none
  -- Bytes that each direction of a client's connection holds.
  capacity : Nat := 0x100000
  -- Whether clients read nothing before their sessions are over.
  deaf : Bool := false

structure Scene where
  setup : Setup
  context : Context
  session : Session
  client : Peer
  backend : Peer
  connected : Bool := false
  endedAt : Option Nat := none

/-- Why a rehearsal cannot go on. -/
inductive Obstacle where
  | backendNotBound
  | backendNotConnected
  | listenerNotBound
  | listenerNotReached
  | waitsForever
  deriving DecidableEq, Repr

namespace Setup

-- Bytes that a backend's connection holds if the backend does not read.
def holdCapacity : Nat := 0x400000

def backendPeer (setup : Setup) : Peer :=
  match setup.backend.map BackendSetup.manner with
  | some .holding => { capacity := holdCapacity, listening := false }
  | some .echoing => { echoing := true }
  | _ => {}

-- The service dials the port of the backend, if there is one.
def contextFor (setup : Setup) (client : SocketAddress) : Context where
  service :=
    match setup.backend with
    | some backend => { setup.service with backendPort := some backend.address.port }
    | none => setup.service
  dialer := setup.dialer client

def check (setup : Setup) : Except Obstacle Unit :=
  match setup.backend.bind fun backend => setup.host.bind backend.address with
  | some _ => .error .backendNotBound
  | none => .ok ()

def sceneFor (setup : Setup) (client : SocketAddress) (now : Nat) : Scene :=
  let context := setup.contextFor client
  { setup, context
    session := .start context now
    client := { capacity := setup.capacity, listening := !setup.deaf }
    backend := setup.backendPeer }

end Setup

namespace Scene

def isOver (scene : Scene) : Bool := scene.endedAt.isSome

def clock (scene : Scene) : Nat := scene.session.clock

def peer (scene : Scene) : Side -> Peer
  | .client => scene.client
  | .backend => scene.backend

def withPeer (scene : Scene) (side : Side) (peer : Peer) : Scene :=
  match side with
  | .client => { scene with client := peer }
  | .backend => { scene with backend := peer }

@[simp] theorem context_withPeer (scene : Scene) (side : Side) (peer : Peer) :
    (scene.withPeer side peer).context = scene.context := by
  cases side <;> rfl

@[simp] theorem session_withPeer (scene : Scene) (side : Side) (peer : Peer) :
    (scene.withPeer side peer).session = scene.session := by
  cases side <;> rfl

def lookup (scene : Scene) (name : String) (port : UInt16) : Option (Session.Event × Scene) :=
  some (.resolved (scene.setup.host.lookup name port), scene)

def connect (scene : Scene) (source : Option Ip6) (target : SocketAddress) :
    Option (Session.Event × Scene) :=
  if scene.setup.backend = some { address := target, manner := .stalling } then none
  else
    let listening := scene.setup.backend.map BackendSetup.address
    match scene.setup.host.connect listening source target with
    | none => some (.attempted none, { scene with connected := true })
    | some refusal => some (.attempted (some refusal), scene)

-- The event that answers a want at once, if it need not wait for the peers or the host.
def answer? (scene : Scene) : Session.Want -> Option (Session.Event × Scene)
  | .read side room =>
      ((scene.peer side).read? side room).map fun (event, peer) => (event, scene.withPeer side peer)
  | .write side bytes =>
      ((scene.peer side).write? side bytes).map fun (event, peer) =>
        (event, scene.withPeer side peer)
  | .flush => some (.flushed, scene)
  | .shut side => some (.shut side, scene.withPeer side (scene.peer side).hearEnd)
  | .lookup name port =>
      if (Lookup.literal? name port).isSome then scene.lookup name port else none
  | .connect source target =>
      if scene.setup.host.reaches target.ip then none else scene.connect source target

-- The event that answers a want in the end, if the host has to do something for it.
def lateAnswer? (scene : Scene) : Session.Want -> Option (Session.Event × Scene)
  | .lookup name port => scene.lookup name port
  | .connect source target => scene.connect source target
  | _ => none

def withSession (scene : Scene) (session : Session) : Scene :=
  if session.result?.isSome && !scene.isOver then
    { scene with
      session
      client := scene.client.release
      backend := scene.backend.release
      endedAt := some session.clock }
  else { scene with session }

@[simp] theorem context_withSession (scene : Scene) (session : Session) :
    (scene.withSession session).context = scene.context := by
  unfold withSession
  split <;> rfl

@[simp] theorem session_withSession (scene : Scene) (session : Session) :
    (scene.withSession session).session = session := by
  unfold withSession
  split <;> rfl

def happen? (scene : Scene) (event : Session.Event) : Option Scene :=
  (scene.session.step scene.context event).map scene.withSession

def hear (scene : Scene) : Scene :=
  { scene with client := scene.client.hear, backend := scene.backend.hear }

def push (scene : Scene) : Scene :=
  { scene with client := scene.client.push, backend := scene.backend.push }

def answered? (scene : Scene) : Option Scene :=
  ((scene.session.wants scene.context).findSome? scene.answer?).bind fun (event, scene) =>
    scene.happen? event

def answeredLate? (scene : Scene) : Option Scene :=
  ((scene.session.wants scene.context).findSome? scene.lateAnswer?).bind fun (event, scene) =>
    scene.happen? event

def rung? (scene : Scene) : Option Scene :=
  if scene.session.alarm?.any (· ≤ scene.clock) then scene.happen? (.elapsed 0) else none

-- Steps after which a session lets the others go on.
def stretch : Nat := 128

/-- The session goes on for at most `count` steps; and whether it then has to wait. What it wants
is answered before alarms ring. -/
def work : Nat -> Scene -> Scene × Bool
  | 0, scene => (scene.rung?.getD scene, false)
  | count + 1, scene =>
      match scene.answered? <|> scene.rung? with
      | some scene => work count scene
      | none => (scene, true)

-- How often the session and those who read from it can alternate before others get a turn.
def exchanges : Nat := 31

-- The session goes on while the peers read what it writes; and whether it then has to wait.
def converse : Nat -> Scene -> Scene × Bool
  | 0, scene => (scene, false)
  | count + 1, scene =>
      match scene.work stretch with
      | (scene, false) => (scene.hear, false)
      | (scene, true) =>
          if scene.client.hasNews || scene.backend.hasNews then converse count scene.hear
          else (scene, true)

/-- What a turn of everybody came to. -/
inductive Turn where
  -- The session could have gone on.
  | cutShort
  | moved
  -- Everybody has to wait.
  | idle
  deriving DecidableEq, Repr

-- The session has its turn first, then those who send, and at last the host.
def turn (scene : Scene) : Scene × Turn :=
  match scene.converse exchanges with
  | (scene, false) => (scene.push, .cutShort)
  | (scene, true) =>
      if scene.client.canPush || scene.backend.canPush then (scene.push, .moved)
      else
        match scene.answeredLate? with
        | some scene => (scene, .moved)
        | none => (scene, .idle)

/-- Gives turns until everybody has to wait, or a session could have gone on more often than
`looks` times. -/
def settleWithin : Nat -> Nat -> Scene -> Scene
  | 0, _, scene => scene
  | count + 1, looks, scene =>
      match scene.turn, looks with
      | (scene, .idle), _ | (scene, .cutShort), 0 => scene
      | (scene, .moved), looks | (scene, .cutShort), looks + 1 => settleWithin count looks scene

/-- More turns than the session can take before it has to wait: each byte gets on the way once, is
read and written at most twice, and the rest is a matter of phases and rejections. -/
def patience (scene : Scene) : Nat :=
  let size (peer : Peer) := peer.unsent.length + peer.underway.length
  5 * (size scene.client + size scene.backend) + 1000

-- How often a script looks at a session that could go on before the script goes on itself.
def looks : Nat := 200

-- All that can happen now happens, unless that takes the session very many steps.
def settle (scene : Scene) : Scene := scene.settleWithin scene.patience looks

def exhaust (scene : Scene) : Scene := scene.settleWithin scene.patience scene.patience

-- Gives turns until what a peer sends is on the way, or cannot be.
def deliverWithin (side : Side) : Nat -> Scene -> Scene
  | 0, scene => scene
  | count + 1, scene =>
      if (scene.peer side).unsent.isEmpty then scene
      else
        match scene.turn with
        | (scene, .idle) => scene
        | (scene, _) => deliverWithin side count scene

def deliver (side : Side) (scene : Scene) : Scene := scene.deliverWithin side scene.patience

def jump (scene : Scene) (milliseconds : Nat) : Scene :=
  (scene.happen? (.elapsed milliseconds)).getD scene

def advance (scene : Scene) (milliseconds : Nat) : Scene :=
  (scene.settle.jump milliseconds).settle

-- Waits for at most `count` alarms until the session is over.
def outlast : Nat -> Scene -> Scene
  | 0, scene => scene.exhaust
  | count + 1, scene =>
      let scene := scene.exhaust
      if scene.isOver then scene
      else
        match scene.session.alarm? with
        | none => scene
        | some alarm => outlast count (scene.jump (alarm - scene.clock))

def act (scene : Scene) (side : Side) (change : Peer -> Peer) : Scene :=
  (scene.withPeer side (change (scene.peer side))).settle

def send (scene : Scene) (side : Side) (bytes : List UInt8) : Scene × Bool :=
  if bytes.isEmpty then (scene.settle, true)
  else if (scene.peer side).ending || (scene.peer side).released then (scene.settle, false)
  else
    let scene := ((scene.withPeer side ((scene.peer side).send bytes)).deliver side).settle
    (scene, !(scene.peer side).refused)

end Scene

end SniffingRelay
