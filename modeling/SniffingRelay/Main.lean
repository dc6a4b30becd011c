import SniffingRelay.Dial.Lookup
import SniffingRelay.Launch.Startup
import SniffingRelay.Listener.Accounts
import SniffingRelay.Session.Step
import Std.Async.DNS
import Std.Async.Signal
import Std.Async.TCP
import Std.Async.Timer

set_option autoImplicit false

namespace SniffingRelay.Program

open Std.Async

abbrev Stream : Type := TCP.Socket.Client

def word16 (groups : List Nat) (index : Nat) : UInt16 := UInt16.ofNat (groups.getD index 0)

def word8 (octets : List Nat) (index : Nat) : UInt8 := UInt8.ofNat (octets.getD index 0)

def outward : SocketAddress -> Std.Net.SocketAddress
  | .v4 address port =>
      let octet := word8 address.octets
      .v4 { addr := .ofParts (octet 0) (octet 1) (octet 2) (octet 3), port }
  | .v6 address port _ =>
      let group := word16 address.groups
      .v6 { addr := .ofParts (group 0) (group 1) (group 2) (group 3) (group 4) (group 5) (group 6)
              (group 7), port }

def inwardIp : Std.Net.IPAddr -> Ip
  | .v4 address => .v4 (.ofOctets (address.octets.toList.map UInt8.toNat))
  | .v6 address => .v6 (.ofGroups (address.segments.toList.map UInt16.toNat))

def inward (address : Std.Net.SocketAddress) : SocketAddress :=
  .ofIp address.port (inwardIp address.ipAddr)

def systemCode? : IO.Error -> Option UInt32
  | .alreadyExists _ code _ | .otherError code _ | .resourceBusy code _
  | .resourceVanished code _ | .unsupportedOperation code _ | .hardwareFault code _
  | .unsatisfiedConstraints code _ | .illegalOperation code _ | .protocolError code _
  | .timeExpired code _ | .interrupted _ code _ | .noFileOrDirectory _ code _
  | .invalidArgument _ code _ | .permissionDenied _ code _ | .resourceExhausted _ code _
  | .inappropriateType _ code _ | .noSuchThing _ code _ => some code
  | .unexpectedEof | .userError _ => none

-- Numbers may come with a minus sign.
def faultOf (error : IO.Error) : Fault :=
  match systemCode? error with
  | some code => .ofCode (min code (0 - code)).toNat
  | none => ⟨.other, some error.toString⟩

structure Connection where
  client : Stream
  backend : IO.Ref (Option Stream)

namespace Connection

def stream? (connection : Connection) : Side -> IO (Option Stream)
  | .client => return some connection.client
  | .backend => connection.backend.get

def read (connection : Connection) (side : Side) (room : Nat) : Async Session.Event := do
  try
    match <- connection.stream? side with
    | none => return .ended side
    | some stream =>
        match <- stream.recv? room.toUInt64 with
        | none => return .ended side
        | some bytes => return .received side bytes.data.toList
  catch error => return .readFailed side (faultOf error)

def write (connection : Connection) (side : Side) (bytes : List UInt8) : Async Session.Event := do
  try
    match <- connection.stream? side with
    | none => return .writeFailed side .brokenPipe
    | some stream =>
        stream.send ⟨bytes.toArray⟩
        return .accepted side bytes.length
  catch error => return .writeFailed side (faultOf error)

def shut (connection : Connection) (side : Side) : Async Session.Event := do
  try
    match <- connection.stream? side with
    | none => return .shut side
    | some stream =>
        stream.shutdown
        return .shut side
  catch _ => return .shut side

def lookup (name : String) (port : UInt16) : Async Session.Event := do
  match Lookup.withoutResolver? name port with
  | some found => return .resolved found
  | none =>
      try
        let found <- DNS.getAddrInfo name (Numeral.decimal port.toNat)
        return .resolved (.ok (found.toList.map fun address => .ofIp port (inwardIp address)))
      catch error => return .resolved (.error (faultOf error))

def connect (connection : Connection) (source : Option Ip6) (target : SocketAddress) :
    Async Session.Event := do
  let stream <- TCP.Socket.Client.mk
  try
    if let some source := source then stream.bind (outward (.v6 source 0 0))
  catch error => return .attempted (some (.bind (faultOf error)))
  try
    stream.connect (outward target)
    connection.backend.set (some stream)
    return .attempted none
  catch error => return .attempted (some (.connect (faultOf error)))

def answer (connection : Connection) : Session.Want -> Async Session.Event
  | .read side room => connection.read side room
  | .write side bytes => connection.write side bytes
  | .flush => return .flushed
  | .shut side => connection.shut side
  | .lookup name port => lookup name port
  | .connect source target => connection.connect source target

def release (connection : Connection) : IO Unit := do
  connection.client.native.cancelRecv
  if let some stream := (<- connection.backend.get) then stream.native.cancelRecv
  connection.backend.set none

end Connection

def elapse (milliseconds : Nat) : Async Unit := do
  (<- Sleep.mk (.ofNat milliseconds)).wait

/-- What ends a wait: the answer to a want, the passing of time, or the end of the program. -/
inductive Wake where
  | answered (want : Session.Want) (event : Session.Event)
  | rang (alarm : Nat)
  | stopped

abbrev Pending : Type := List (Session.Want × Task Wake)

def waitFor (want : Session.Want) (answer : Async Session.Event) : IO (Task Wake) := do
  let task <- answer.toIO
  return Task.map (fun
    | .ok event => Wake.answered want event
    | .error _ => Wake.answered want .flushed) task

def ringAt (start alarm : Nat) : IO (Task Wake) := do
  let task <- (elapse (alarm - start)).toIO
  return Task.map (fun _ => Wake.rang alarm) task

def startWants (connection : Connection) (wants : List Session.Want) (pending : Pending) :
    IO Pending :=
  wants.foldlM (fun pending want => do
    if pending.any (·.1 = want) then return pending
    else return (want, <- waitFor want (connection.answer want)) :: pending) pending

/-- The alarm that is set, and the task that rings it. -/
abbrev Alarm : Type := Option (Nat × Task Wake)

def setAlarm (session : Session) (alarm : Alarm) : IO Alarm := do
  match session.alarm? with
  | none => return none
  | some due =>
      if alarm.any (·.1 = due) then return alarm
      else return some (due, <- ringAt session.clock due)

def pass (context : Context) (session : Session) (now : Nat) : Session :=
  (session.step context (.elapsed (now - session.clock))).getD session

/-- Lets a session take its course, unless the program stops; `began` is when it started. What
comes in after time has passed may not matter any more. -/
partial def follow (stop : Task Wake) (connection : Connection) (context : Context) (began : Nat)
    (session : Session) (pending : Pending) (alarm : Alarm) :
    IO (Option (Except Failure Summary)) := do
  match session.result? with
  | some result => return some result
  | none => do
      let pending <- startWants connection (session.wants context) pending
      let alarm <- setAlarm session alarm
      let follow := follow stop connection context began
      match <- IO.waitAny (stop :: pending.map (·.2) ++ alarm.toList.map (·.2)) (by simp) with
      | .stopped => return none
      | .rang due => follow (pass context session (max due ((<- IO.monoMsNow) - began))) pending none
      | .answered want event =>
          let session := pass context session ((<- IO.monoMsNow) - began)
          follow ((session.step context event).getD session) (pending.filter (·.1 ≠ want)) alarm

structure Socket where
  server : TCP.Socket.Server

def bind (address : SocketAddress) : IO (Except Fault Socket) := do
  try
    let server <- TCP.Socket.Server.mk
    server.bind (outward address)
    server.listen 1024
    return .ok { server }
  catch error => return .error (faultOf error)

-- Milliseconds to wait after a connection could not be accepted.
def acceptPause : UInt32 := 100

def post (accounts : IO.Ref Accounts) (entries : List Entry) : IO Unit :=
  entries.forM fun entry => accounts.modify (·.post entry)

def serveClient (stop : Task Wake) (context : SocketAddress -> Context)
    (accounts : IO.Ref Accounts) (client : Stream) : IO Unit := do
  let context := context (inward (<- client.getPeerName))
  let connection : Connection := { client, backend := <- IO.mkRef none }
  let began <- IO.monoMsNow
  let result <- follow stop connection context began (.start context 0) [] none
  connection.release
  post accounts ((result.map Entry.onResult).getD [])

def nextClient (stop : Task Wake) (socket : Socket) : IO (Option Stream) := do
  let accepting <- socket.server.accept.toIO
  let stopping : Task (Option (Except IO.Error Stream)) := stop.map fun _ => none
  match <- IO.waitAny [stopping, Task.map some accepting] (by simp) with
  | none => do
      socket.server.native.cancelAccept
      return none
  | some (.ok client) => return some client
  | some (.error error) => throw error

partial def serve (stop : Task Wake) (context : SocketAddress -> Context)
    (accounts : IO.Ref Accounts) (socket : Socket) : IO Unit := do
  try
    match <- nextClient stop socket with
    | none => return
    | some client => do
        post accounts Entry.onArrival
        let _ <- IO.asTask (serveClient stop context accounts client) .dedicated
  catch _ => IO.sleep acceptPause
  serve stop context accounts socket

def tell (filter : NoticeFilter) (format : LogFormat) (notice : Notice) : IO Unit := do
  if filter.shows notice then
    let now := Std.Time.DateTime.ofTimestamp (<- Std.Time.Timestamp.now) .UTC
    let output <- IO.getStdout
    output.putStrLn (notice.line now.toISO8601String format)
    output.flush

def launch (filter : NoticeFilter) (settings : Settings) : IO UInt32 := do
  let tell := tell filter settings.logFormat
  let interrupted <- (<- Signal.Waiter.mk .sigint false).wait
  let stop <- IO.Promise.new
  let stopped : Task Wake := stop.result?.map fun _ => .stopped
  let run (origin : Origin) (service : Service) (socket : Socket) : IO Unit := do
    let accounts <- IO.mkRef {}
    let context (client : SocketAddress) : Context :=
      { service, dialer := fun _ => origin.dialerFor settings.dialMilliseconds client }
    let _ <- IO.asTask (serve stopped context accounts socket) .dedicated
  match <- Startup.start tell bind run settings with
  | .error complaint => do
      stop.resolve ()
      IO.eprint complaint.text
      return Startup.complaintCode.toUInt32
  | .ok () => do
      let _ <- IO.wait interrupted
      tell .stopping
      stop.resolve ()
      return 0

def readEnvironment : IO (String -> Option String) := do
  let names := "RUST_LOG" :: Flag.all.map Flag.environmentName
  let values <- names.mapM fun name => return (name, <- IO.getEnv name)
  return fun name => (values.lookup name).join

end SniffingRelay.Program

open SniffingRelay in
def main (arguments : List String) : IO UInt32 := do
  let environment <- Program.readEnvironment
  match CommandLine.read arguments environment with
  | .ok settings => do
      let reading := settings.filter environment
      IO.eprint (Startup.filterComplaints reading)
      match reading.filter with
      | some filter => Program.launch filter settings
      | none => return Startup.breakCode.toUInt32
  | .error error => do
      IO.print (Startup.usageOutput error)
      IO.eprint (Startup.usageComplaint error)
      return (Startup.usageCode error).toUInt32
