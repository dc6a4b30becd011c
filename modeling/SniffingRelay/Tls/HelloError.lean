import SniffingRelay.Fault
import SniffingRelay.Tls.Alert

set_option autoImplicit false

namespace SniffingRelay.Tls

/-- A part of the message, by the name that error texts give it. -/
structure Field where
  label : String
  deriving DecidableEq, Repr

namespace Field

def version : Field := ⟨"legacy_version"⟩
def random : Field := ⟨"random"⟩
def sessionIdLength : Field := ⟨"session_id length"⟩
def sessionId : Field := ⟨"session_id"⟩
def cipherSuitesLength : Field := ⟨"cipher_suites length"⟩
def cipherSuites : Field := ⟨"cipher_suites"⟩
def compressionLength : Field := ⟨"compression_methods length"⟩
def compression : Field := ⟨"compression_methods"⟩
def extensionsLength : Field := ⟨"extensions length"⟩
def extensionType : Field := ⟨"extension type"⟩
def extensionLength : Field := ⟨"extension length"⟩
def extensionPayload : Field := ⟨"extension payload"⟩
def nameListLength : Field := ⟨"server_name list length"⟩
def nameType : Field := ⟨"name_type"⟩
def hostNameLength : Field := ⟨"host_name length"⟩
def hostName : Field := ⟨"host_name"⟩

end Field

inductive HelloError where
  | recordHeader (fault : Fault)
  | recordFragment (length : Nat) (fault : Fault)
  | contentType (got wanted : UInt8)
  | emptyRecord
  | handshakeType (got : UInt8)
  | messageTooLarge (length limit : Nat)
  | versionTooOld (major minor : UInt8)
  | truncated (field : Field) (needed remaining : Nat)
  | sessionIdTooLong (length : Nat)
  | oddCipherSuites (length : Nat)
  | extensionsMismatch (claimed actual : Nat)
  | nameListMismatch (claimed actual : Nat)
  | unsupportedNameType (got : UInt8)
  | nameNotUtf8
  deriving DecidableEq, Repr

namespace HelloError

open Numeral (decimal)

def message : HelloError -> String
  | .recordHeader fault => "reading record header: " ++ fault.message
  | .recordFragment length fault =>
      "reading " ++ decimal length ++ "-byte record fragment: " ++ fault.message
  | .contentType got wanted =>
      "unexpected content type " ++ decimal got.toNat ++ ", wanted " ++ decimal wanted.toNat
  | .emptyRecord => "empty handshake record"
  | .handshakeType got =>
      "expected handshake type ClientHello (1), got " ++ decimal got.toNat
  | .messageTooLarge length limit =>
      "handshake message of " ++ decimal length ++ " bytes exceeds maximum of " ++ decimal limit
        ++ " bytes"
  | .versionTooOld major minor =>
      "client offered version " ++ decimal major.toNat ++ "." ++ decimal minor.toNat
        ++ ", below minimum of 3.3"
  | .truncated field needed remaining =>
      field.label ++ ": need " ++ decimal needed ++ " bytes, " ++ decimal remaining ++ " remaining"
  | .sessionIdTooLong length =>
      "session id length " ++ decimal length ++ " out of range (max 32)"
  | .oddCipherSuites length => "cipher suites length " ++ decimal length ++ " is not even"
  | .extensionsMismatch claimed actual =>
      "extensions length " ++ decimal claimed ++ " does not match remaining " ++ decimal actual
        ++ " bytes"
  | .nameListMismatch claimed actual =>
      "server name list length " ++ decimal claimed ++ " does not match extension payload of "
        ++ decimal actual ++ " bytes"
  | .unsupportedNameType got => "unsupported server name type " ++ decimal got.toNat
  | .nameNotUtf8 => "server name is not valid UTF-8"

def alert : HelloError -> Alert
  | .unsupportedNameType _ => .unrecognizedName
  | _ => .internalError

-- Well formed, but of a kind that cannot be relayed.
def isUnsupported : HelloError -> Bool
  | .handshakeType _ | .versionTooOld .. | .unsupportedNameType _ => true
  | _ => false

def fault? : HelloError -> Option Fault
  | .recordHeader fault | .recordFragment _ fault => some fault
  | _ => none

end HelloError

end SniffingRelay.Tls
