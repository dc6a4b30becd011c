import SniffingRelay.Stream.Reader

set_option autoImplicit false

-- Reads a request line and header lines up to the empty line, and keeps the value of the only line
-- that starts with `Host: ` in exactly this spelling.

namespace SniffingRelay.Http

-- Most bytes of a line, its terminator included.
def lineLimit : Nat := 1024

inductive HeaderError where
  | stream (fault : Fault)
  | missingRequestLine
  | lineTooLong
  | multipleHosts
  | hostNotUtf8
  deriving DecidableEq, Repr

namespace HeaderError

def message : HeaderError -> String
  | .stream fault => "reading request: " ++ fault.message
  | .missingRequestLine => "failed to read initial line"
  | .lineTooLong => "line exceeds 1024 bytes"
  | .multipleHosts => "saw multiple Host headers"
  | .hostNotUtf8 => "Host header is not valid UTF-8"

def fault? : HeaderError -> Option Fault
  | .stream fault => some fault
  | _ => none

end HeaderError

structure HostHeader where
  -- The value of the header, or nothing.
  host : String
  -- Whether the empty line after the headers was reached.
  complete : Bool
  deriving DecidableEq, Repr

/-- The lines seen: none yet, or the request line and headers with at most one host. -/
inductive Seen where
  | nothing
  | headers (host : Option String)
  deriving DecidableEq, Repr

structure RequestHead where
  seen : Seen := .nothing
  -- The bytes of the unfinished line.
  line : Array UInt8 := #[]
  deriving DecidableEq, Repr

namespace RequestHead

def lineFeed : UInt8 := 10
def carriageReturn : UInt8 := 13

def hostLabel : List UInt8 := [72, 111, 115, 116, 58, 32]

def hostValue? (line : List UInt8) : Option (List UInt8) :=
  if hostLabel.isPrefixOf line then some (line.drop hostLabel.length) else none

-- A line without its line feed, and without one carriage return before that.
def content (line : List UInt8) : List UInt8 :=
  match line.reverse with
  | last :: before =>
      if last = lineFeed then
        match before with
        | other :: earlier => if other = carriageReturn then earlier.reverse else before.reverse
        | [] => []
      else line
  | [] => []

-- Takes a line. Only a line after the request line can settle the reading.
def takeLine (seen : Seen) (line : List UInt8) : Progress Seen (Except HeaderError HostHeader) :=
  match seen with
  | .nothing => .more (.headers none)
  | .headers host =>
      if line.isEmpty then .settled (.ok ⟨host.getD "", true⟩)
      else
        match hostValue? line, host with
        | none, _ => .more (.headers host)
        | some _, some _ => .settled (.error .multipleHosts)
        | some value, none =>
            match String.fromUTF8? ⟨value.toArray⟩ with
            | none => .settled (.error .hostNotUtf8)
            | some text => .more (.headers (some text))

def push (state : RequestHead) (byte : UInt8) : Progress RequestHead (Except HeaderError HostHeader) :=
  let line := state.line.push byte
  if byte = lineFeed then
    (takeLine state.seen (content line.toList)).map (fun seen => { seen }) id
  else if line.size = lineLimit then .settled (.error .lineTooLong)
  else .more { state with line }

-- At the end of input a last line without a terminator is taken as it is.
def takeRest (state : RequestHead) : Progress Seen (Except HeaderError HostHeader) :=
  if state.line.isEmpty then .more state.seen else takeLine state.seen state.line.toList

def finish (state : RequestHead) : Stop -> Except HeaderError HostHeader
  | .failed fault => .error (.stream fault)
  | .ended =>
      match state.takeRest with
      | .settled result => result
      | .more .nothing => .error .missingRequestLine
      | .more (.headers host) => .ok ⟨host.getD "", false⟩

-- Only an end between lines is the end of the headers.
def resume (state : RequestHead) : Option RequestHead :=
  if state.line.isEmpty then none
  else
    match state.takeRest with
    | .settled _ => none
    | .more seen => some { seen }

end RequestHead

-- Takes at most `capacity` bytes in one read, whatever it goes on to use.
def headReader (capacity : Nat) : Reader RequestHead (Except HeaderError HostHeader) where
  room := fun _ => capacity
  push := RequestHead.push
  finish := RequestHead.finish
  resume := RequestHead.resume

end SniffingRelay.Http
