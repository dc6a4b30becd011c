import SniffingRelay.Text.Digits
import SniffingRelay.Tls.HelloError

set_option autoImplicit false

-- Reads the version and the server name. Every length is checked against the bytes at hand before
-- they are taken, and the first rule that a body breaks in reading order names its error.

namespace SniffingRelay.Tls

structure Version where
  major : UInt8
  minor : UInt8
  deriving DecidableEq, Repr

-- Below TLS 1.2, in lexicographic order.
def Version.isOld (version : Version) : Bool :=
  version.major < 3 || (version.major == 3 && version.minor < 3)

structure Hello where
  version : Version
  -- The first name of the first server_name extension that has one, or nothing.
  serverName : String
  deriving DecidableEq, Repr

namespace Hello

/-- A part of the message and the bytes after it. -/
abbrev Part (A : Type) : Type := Except HelloError (A × List UInt8)

def take (field : Field) (count : Nat) (bytes : List UInt8) : Part (List UInt8) :=
  let (taken, rest) := bytes.splitAt count
  if taken.length = count then .ok (taken, rest)
  else .error (.truncated field count bytes.length)

def byte (field : Field) : List UInt8 -> Part UInt8
  | first :: rest => .ok (first, rest)
  | [] => .error (.truncated field 1 0)

def bigEndian (bytes : List UInt8) : Nat :=
  Digits.toNat 256 (bytes.map UInt8.toNat)

def word (field : Field) : List UInt8 -> Part Nat
  | high :: low :: rest => .ok (bigEndian [high, low], rest)
  | short => .error (.truncated field 2 short.length)

theorem length_of_byte {field : Field} {bytes rest : List UInt8} {value : UInt8}
    (read : byte field bytes = .ok (value, rest)) : rest.length + 1 = bytes.length := by
  cases bytes with
  | nil => simp [byte] at read
  | cons first more =>
    simp only [byte, Except.ok.injEq, Prod.mk.injEq] at read
    simp [← read.2]

theorem length_of_word {field : Field} {bytes rest : List UInt8} {value : Nat}
    (read : word field bytes = .ok (value, rest)) : rest.length + 2 = bytes.length := by
  match bytes with
  | [] | [_] => simp [word] at read
  | high :: low :: more =>
    simp only [word, Except.ok.injEq, Prod.mk.injEq] at read
    simp [← read.2]

theorem length_of_take {field : Field} {count : Nat} {bytes taken rest : List UInt8}
    (read : take field count bytes = .ok (taken, rest)) :
    rest.length + count = bytes.length := by
  simp only [take, List.splitAt_eq] at read
  split at read
  next whole =>
    simp only [Except.ok.injEq, Prod.mk.injEq] at read
    have split := congrArg List.length (List.take_append_drop count bytes)
    rw [List.length_append, whole] at split
    rw [← read.2]
    omega
  next => simp at read

def utf8? (bytes : List UInt8) : Option String :=
  String.fromUTF8? ⟨bytes.toArray⟩

-- The entries of a server_name list. Only the first name has to be UTF-8.
def names (first : Option String) (bytes : List UInt8) : Except HelloError (Option String) :=
  if bytes.isEmpty then .ok first
  else
    match _typeRead : byte .nameType bytes with
    | .error error => .error error
    | .ok (kind, afterType) =>
        if kind ≠ 0 then .error (.unsupportedNameType kind)
        else
          match _lengthRead : word .hostNameLength afterType with
          | .error error => .error error
          | .ok (length, afterLength) =>
              match _nameRead : take .hostName length afterLength with
              | .error error => .error error
              | .ok (name, rest) =>
                  match first <|> utf8? name with
                  | some found => names (some found) rest
                  | none => .error .nameNotUtf8
termination_by bytes.length
decreasing_by
  all_goals
    have afterType := length_of_byte _typeRead
    have afterLength := length_of_word _lengthRead
    have afterName := length_of_take _nameRead
    omega

def nameList (payload : List UInt8) : Except HelloError (Option String) := do
  let (length, rest) <- word .nameListLength payload
  if length ≠ rest.length then throw (.nameListMismatch length rest.length)
  names none rest

-- The extensions one after the other; those of type 0 name servers.
def extensions (found : Option String) (bytes : List UInt8) :
    Except HelloError (Option String) :=
  if bytes.isEmpty then .ok found
  else
    match _typeRead : word .extensionType bytes with
    | .error error => .error error
    | .ok (kind, afterType) =>
        match _lengthRead : word .extensionLength afterType with
        | .error error => .error error
        | .ok (length, afterLength) =>
            match _payloadRead : take .extensionPayload length afterLength with
            | .error error => .error error
            | .ok (payload, rest) =>
                if kind ≠ 0 then extensions found rest
                else
                  match nameList payload with
                  | .error error => .error error
                  | .ok name => extensions (found <|> name) rest
termination_by bytes.length
decreasing_by
  all_goals
    have afterType := length_of_word _typeRead
    have afterLength := length_of_word _lengthRead
    have afterPayload := length_of_take _payloadRead
    omega

def parse (body : List UInt8) : Except HelloError Hello := do
  let (major, rest) <- byte .version body
  let (minor, rest) <- byte .version rest
  let version : Version := ⟨major, minor⟩
  if version.isOld then throw (.versionTooOld major minor)
  let (_, rest) <- take .random 32 rest
  let (sessionIdLength, rest) <- byte .sessionIdLength rest
  if 32 < sessionIdLength.toNat then throw (.sessionIdTooLong sessionIdLength.toNat)
  let (_, rest) <- take .sessionId sessionIdLength.toNat rest
  let (cipherSuitesLength, rest) <- word .cipherSuitesLength rest
  if cipherSuitesLength % 2 ≠ 0 then throw (.oddCipherSuites cipherSuitesLength)
  let (_, rest) <- take .cipherSuites cipherSuitesLength rest
  let (compressionLength, rest) <- byte .compressionLength rest
  let (_, rest) <- take .compression compressionLength.toNat rest
  if rest.isEmpty then return ⟨version, ""⟩
  let (extensionsLength, rest) <- word .extensionsLength rest
  if extensionsLength ≠ rest.length then
    throw (.extensionsMismatch extensionsLength rest.length)
  let name <- extensions none rest
  return ⟨version, name.getD ""⟩

end Hello

end SniffingRelay.Tls
