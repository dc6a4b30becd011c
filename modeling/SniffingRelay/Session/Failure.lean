import SniffingRelay.Dial.Error
import SniffingRelay.Http.HostHeader
import SniffingRelay.Session.Service
import SniffingRelay.Text.Quoted
import SniffingRelay.Tls.HelloError

set_option autoImplicit false

namespace SniffingRelay

/-- The stages of a session's life. -/
inductive Stage where
  | sniffing
  | policyCheck
  | dialing
  | replaying
  | splicing
  | closed
  deriving DecidableEq, Repr

def Stage.text : Stage -> String
  | .sniffing => "sniffing"
  | .policyCheck => "policy_check"
  | .dialing => "dialing"
  | .replaying => "replaying"
  | .splicing => "splicing"
  | .closed => "closed"

inductive FailureClass where
  | malformedInput
  | unsupportedFeature
  | policyRejected
  | backendUnavailable
  | replayFailed
  deriving DecidableEq, Repr

def FailureClass.text : FailureClass -> String
  | .malformedInput => "malformed_input"
  | .unsupportedFeature => "unsupported_feature"
  | .policyRejected => "policy_rejected"
  | .backendUnavailable => "backend_unavailable"
  | .replayFailed => "replay_failed"

inductive Failure where
  | sniffTimeout (limit : Span)
  | hello (cause : Tls.HelloError)
  | headers (cause : Http.HeaderError)
  | incompleteHeaders
  | missingHostname
  | notPermitted (hostname : String)
  | dial (hostname : String) (cause : DialError)
  | replay (hostname : String) (fault : Fault)
  deriving DecidableEq, Repr

def badRequest : String :=
  "HTTP/1.0 400 Bad Request\r\nContent-Type: text/plain\r\n\r\nBad Request\r\n"

def serviceUnavailable : String :=
  "HTTP/1.0 503 Service Unavailable\r\nContent-Type: text/plain\r\n\r\nService Unavailable\r\n"

namespace Failure

def message : Failure -> String
  | .sniffTimeout limit => "no complete request within " ++ limit.text
  | .hello cause => "reading ClientHello: " ++ cause.message
  | .headers cause => "reading request headers: " ++ cause.message
  | .incompleteHeaders => "input ended before the end of the request headers"
  | .missingHostname => "no destination hostname"
  | .notPermitted hostname => "hostname " ++ Quoted.quote hostname ++ " is not permitted"
  | .dial hostname cause => "dialing " ++ hostname ++ ": " ++ cause.message
  | .replay hostname fault => "replaying sniffed bytes to " ++ hostname ++ ": " ++ fault.message

def causes : Failure -> List String
  | .hello cause => cause.message :: (cause.fault?.map Fault.message).toList
  | .headers cause => cause.message :: (cause.fault?.map Fault.message).toList
  | .dial _ cause => cause.message :: (cause.fault?.map Fault.message).toList
  | .replay _ fault => [fault.message]
  | .sniffTimeout _ | .incompleteHeaders | .missingHostname | .notPermitted _ => []

def failureClass : Failure -> FailureClass
  | .hello cause => if cause.isUnsupported then .unsupportedFeature else .malformedInput
  | .sniffTimeout _ | .headers _ | .incompleteHeaders => .malformedInput
  | .missingHostname | .notPermitted _ => .policyRejected
  | .dial .. => .backendUnavailable
  | .replay .. => .replayFailed

def stage : Failure -> Stage
  | .sniffTimeout _ | .hello _ | .headers _ | .incompleteHeaders => .sniffing
  | .missingHostname | .notPermitted _ => .policyCheck
  | .dial .. => .dialing
  | .replay .. => .replaying

def alert : Failure -> Tls.Alert
  | .hello cause => cause.alert
  | .missingHostname | .notPermitted _ | .dial .. => .unrecognizedName
  | .sniffTimeout _ | .headers _ | .incompleteHeaders | .replay .. => .internalError

def response (failure : Failure) : String :=
  match failure.failureClass with
  | .backendUnavailable | .replayFailed => serviceUnavailable
  | .malformedInput | .unsupportedFeature | .policyRejected => badRequest

def rejection (failure : Failure) : Protocol -> List UInt8
  | .tls => failure.alert.record
  | .http => failure.response.toUTF8.data.toList

end Failure

end SniffingRelay
