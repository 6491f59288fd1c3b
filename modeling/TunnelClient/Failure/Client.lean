import TunnelClient.Failure.Host
import TunnelClient.Session.Phase
import TunnelClient.Wire.Error

/-!
# Client errors

The errors of a client.  Those of its frames and of its host pass through it
unchanged.
-/

namespace TunnelClient

inductive ClientError where
  | configLoad (path reason : String)
  | configInvalid (field reason : String)
  | resolve (name reason : String)
  | handshakeTimeout (seconds : Nat)
  | invalidState (source target : Phase)
  | signal (reason : String)
  | ofWire (error : WireError)
  | ofHost (error : HostError)
  deriving DecidableEq, Repr

namespace ClientError

def name : ClientError → String
  | configLoad _ _ => "ConfigLoad"
  | configInvalid _ _ => "ConfigInvalid"
  | resolve _ _ => "Resolve"
  | handshakeTimeout _ => "HandshakeTimeout"
  | invalidState _ _ => "InvalidState"
  | signal _ => "Signal"
  | ofWire error => "Core." ++ error.name
  | ofHost error => "Transport." ++ error.name

def message : ClientError → String
  | configLoad path reason => s!"Failed to load configuration from '{path}': {reason}"
  | configInvalid field reason => s!"Invalid configuration: {field} - {reason}"
  | resolve name reason => s!"Failed to resolve peer '{name}': {reason}"
  | handshakeTimeout seconds => s!"No Accept from peer within {seconds}s"
  | invalidState source target =>
    "Invalid session transition: " ++ source.name ++ " -> " ++ target.name
  | signal reason => s!"Signal handling failed: {reason}"
  | ofWire error => error.message
  | ofHost error => error.message

def causes : ClientError → List String
  | ofWire error => error.causes
  | ofHost error => error.causes
  | _ => []

/-- The message with all that caused it. -/
def report (e : ClientError) : String := ": ".intercalate (e.message :: e.causes)

/-! ## Classes -/

def isNetwork : ClientError → Bool
  | resolve _ _ | handshakeTimeout _ => true
  | ofHost error => error.kind == .network
  | _ => false

def isProtocol : ClientError → Bool
  | ofWire error => error.isProtocol
  | _ => false

def isCrypto : ClientError → Bool
  | ofWire error => error.isCrypto
  | _ => false

def isDevice : ClientError → Bool
  | ofHost error => error.kind == .device
  | _ => false

def isConfig : ClientError → Bool
  | configLoad _ _ | configInvalid _ _ => true
  | ofHost error => error.kind == .route || error.kind == .config
  | _ => false

end ClientError

def Phase.become (p next : Phase) : Except ClientError Phase :=
  if p.canBecome next then .ok next else .error (.invalidState p next)

end TunnelClient
