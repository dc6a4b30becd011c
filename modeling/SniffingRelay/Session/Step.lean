import SniffingRelay.Session.State

set_option autoImplicit false

-- A step takes what happened, and gives nothing if it cannot happen in this phase. Time passes only
-- by steps of its own.

namespace SniffingRelay.Session

/-- What happens to a session. -/
inductive Event where
  | received (side : Side) (bytes : List UInt8)
  | ended (side : Side)
  | readFailed (side : Side) (fault : Fault)
  | accepted (side : Side) (count : Nat)
  | writeFailed (side : Side) (fault : Fault)
  | flushed
  -- Telling the side that no more bytes come has returned. A splice goes on alike whether that went
  -- well or failed, so a failure is this event too; a rejection may also take it as `writeFailed`,
  -- and ends alike.
  | shut (side : Side)
  | resolved (found : Except Fault (List SocketAddress))
  | attempted (refusal : Option Refusal)
  | elapsed (milliseconds : Nat)

-- Milliseconds that a client has to take its rejection.
def rejectionLimit : Nat := 1000

def close (session : Session) (result : Except Failure Summary) : Session :=
  { session with phase := .over result }

def reject (context : Context) (session : Session) (failure : Failure) : Session :=
  let bytes := failure.rejection context.service.protocol
  { session with phase := .rejecting failure (.sending bytes) (session.clock + rejectionLimit) }

def dial (context : Context) (session : Session) (host : String) : Session :=
  let session := { session with ledger := session.ledger.dial host }
  match context.dialer host with
  | .error error => session.reject context (.dial host error)
  | .ok dialer => { session with phase := .dialing { host, dialer } (session.clock + dialer.limit) }

-- Goes on from a sniffed hostname, which has to be there and to be permitted.
def route (context : Context) (session : Session) (sniffed : Except Failure String) : Session :=
  match sniffed with
  | .error failure => session.reject context failure
  | .ok host =>
      if host = "" then session.reject context .missingHostname
      else if context.service.allowList.allows host then session.dial context host
      else session.reject context (.notPermitted host)

def tryNext (context : Context) (session : Session) (dialing : Dialing) (deadline : Nat)
    (error : DialError) : List SocketAddress -> Session
  | [] => session.reject context (.dial dialing.host error)
  | target :: later =>
      { session with phase := .dialing { dialing with stage := .trying target later } deadline }

-- All that was read from the client so far goes to the backend first.
def replay (session : Session) (host : String) (backend : SocketAddress) : Session :=
  { session with phase := .replaying { host, backend, unsent := session.ledger.client.heard.toList } }

def splice (context : Context) (session : Session) (replaying : Replaying) : Session :=
  { session with phase := .splicing {
      host := replaying.host
      backend := replaying.backend
      replayed := session.ledger.backend.told.size
      watch := context.service.idleLimit.map (Watch.start · session.clock) } }

def Splice.summary (splice : Splice) : Summary where
  hostname := splice.host
  backend := splice.backend
  bytesToBackend := splice.replayed + splice.up.moved
  bytesFromBackend := splice.down.moved

-- A splice is over when both halves are.
def settle (session : Session) (splice : Splice) : Session :=
  if splice.up.isFinished ∧ splice.down.isFinished then session.close (.ok splice.summary)
  else { session with phase := .splicing splice }

def move (session : Session) (splice : Splice) (source : Side) (move : Move) : Option Session := do
  let half := splice.half source
  let next <- half.step move
  let watch := if half.isAlive move then splice.watch.map (Watch.touch · session.clock)
    else splice.watch
  return session.settle <| match source with
    | .client => { splice with up := next, watch }
    | .backend => { splice with down := next, watch }

def onReceived (context : Context) (session : Session) (side : Side) (bytes : List UInt8) :
    Option Session :=
  let session := { session with ledger := session.ledger.hear side bytes }
  match session.phase, side with
  | .sniffing sniffer deadline, .client =>
      if bytes = [] ∨ Sniffer.reader.room sniffer < bytes.length then none
      else
        match (Sniffer.reader.feed sniffer bytes).1 with
        | .more sniffer => some { session with phase := .sniffing sniffer deadline }
        | .settled result => some (session.route context result)
  | .splicing splice, side => session.move splice side (.read bytes)
  | _, _ => none

def onStopped (context : Context) (session : Session) (side : Side) (stop : Stop) : Option Session :=
  match session.phase, side with
  | .sniffing sniffer _, .client => some (session.route context (Sniffer.reader.finish sniffer stop))
  | .splicing splice, side => session.move splice side .sourceStopped
  | _, _ => none

-- Sniffers read again after an interruption; a splice takes it for a failure.
def onReadFailed (context : Context) (session : Session) (side : Side) (fault : Fault) :
    Option Session :=
  match session.phase, side with
  | .sniffing _ _, .client =>
      if fault.isInterruption then some session
      else session.onStopped context side (.failed fault)
  | _, _ => session.onStopped context side (.failed fault)

def onAccepted (context : Context) (session : Session) (side : Side) (count : Nat) :
    Option Session :=
  let took (bytes : List UInt8) : Session :=
    { session with ledger := session.ledger.tell side (bytes.take count) }
  match session.phase, side with
  | .replaying replaying, .backend =>
      if count = 0 ∨ replaying.unsent.length < count then none
      else
        match replaying.unsent.drop count with
        | [] => some ((took replaying.unsent).splice context replaying)
        | left => some { took replaying.unsent with
            phase := .replaying { replaying with unsent := left } }
  | .rejecting failure (.sending unsent) deadline, .client =>
      if count = 0 ∨ unsent.length < count then none
      else
        match unsent.drop count with
        | [] => some { took unsent with phase := .rejecting failure .flushing deadline }
        | left => some { took unsent with phase := .rejecting failure (.sending left) deadline }
  | .splicing splice, side =>
      (took (splice.half side.other).unsent).move splice side.other (.wrote count)
  | _, _ => none

def onWriteFailed (context : Context) (session : Session) (side : Side) (fault : Fault) :
    Option Session :=
  match session.phase, side with
  | .replaying replaying, .backend => some (session.reject context (.replay replaying.host fault))
  | .rejecting failure _ _, .client => some (session.close (.error failure))
  | .splicing splice, side => session.move splice side.other .sinkFailed
  | _, _ => none

def onFlushed (session : Session) : Option Session :=
  match session.phase with
  | .rejecting failure .flushing deadline =>
      some { session with phase := .rejecting failure .shutting deadline }
  | _ => none

def onShut (session : Session) (side : Side) : Option Session :=
  let session := { session with ledger := session.ledger.shut side }
  match session.phase, side with
  | .rejecting failure .shutting _, .client => some (session.close (.error failure))
  | .splicing splice, side => session.move splice side.other .sinkShut
  | _, _ => none

def onResolved (context : Context) (session : Session)
    (found : Except Fault (List SocketAddress)) : Option Session :=
  match session.phase with
  | .dialing ({ host, dialer, stage := .resolving } : Dialing) deadline =>
      match found with
      | .error fault => some (session.reject context (.dial host (.resolve host fault)))
      | .ok addresses =>
          let family := context.service.family
          some (session.tryNext context { host, dialer } deadline (.noAddresses host family)
            (dialer.targets family addresses))
  | _ => none

def onAttempted (context : Context) (session : Session) (refusal : Option Refusal) :
    Option Session :=
  match session.phase with
  | .dialing ({ host, dialer, stage := .trying target later } : Dialing) deadline =>
      let session := { session with ledger := session.ledger.attempt target }
      match refusal with
      | none => some (session.replay host target)
      | some refusal =>
          some (session.tryNext context { host, dialer } deadline (dialer.failure target refusal)
            later)
  | _ => none

def ring (context : Context) (session : Session) : Session :=
  match session.phase with
  | .sniffing _ deadline =>
      if session.clock < deadline then session
      else session.reject context (.sniffTimeout (.ofMilliseconds context.service.sniffLimit))
  | .dialing dialing deadline =>
      if session.clock < deadline then session
      else
        let error := .timeout (.ofMilliseconds dialing.dialer.limit)
        session.reject context (.dial dialing.host error)
  | .rejecting failure _ deadline =>
      if session.clock < deadline then session else session.close (.error failure)
  | .splicing splice =>
      match splice.watch with
      | none => session
      | some watch =>
          match watch.look session.clock with
          | none => session.close (.ok splice.summary)
          | some watch => { session with phase := .splicing { splice with watch } }
  | .replaying _ | .over _ => session

def step (context : Context) (session : Session) : Event -> Option Session
  | .received side bytes => session.onReceived context side bytes
  | .ended side => session.onStopped context side .ended
  | .readFailed side fault => session.onReadFailed context side fault
  | .accepted side count => session.onAccepted context side count
  | .writeFailed side fault => session.onWriteFailed context side fault
  | .flushed => session.onFlushed
  | .shut side => session.onShut side
  | .resolved found => session.onResolved context found
  | .attempted refusal => session.onAttempted context refusal
  | .elapsed milliseconds =>
      some ({ session with clock := session.clock + milliseconds }.ring context)

def run (context : Context) : Session -> List Event -> Option Session
  | session, [] => some session
  | session, event :: later => do run context (<- session.step context event) later

end SniffingRelay.Session
