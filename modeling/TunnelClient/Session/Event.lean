import TunnelClient.Device.Settings
import TunnelClient.Failure.Client
import TunnelClient.Route.Faulty
import TunnelClient.Signal.Trigger
import TunnelClient.Wire.Frame

/-!
# Events

What happens in a session, in order.  A call that can fail carries its outcome.
-/

namespace TunnelClient

inductive Cause where
  | uplink (e : ClientError)
  | downlink (e : ClientError)
  | signal (r : TerminateRequest)
  | signalFailed (e : ClientError)
  | aborted
  deriving DecidableEq, Repr

namespace Cause

def name : Cause → String
  | uplink _ => "Uplink"
  | downlink _ => "Downlink"
  | signal _ => "Signal"
  | signalFailed _ => "SignalFailed"
  | aborted => "Aborted"

def isSignal : Cause → Bool
  | signal _ => true
  | _ => false

def error? : Cause → Option ClientError
  | uplink e | downlink e | signalFailed e => some e
  | signal _ | aborted => none

def text : Cause → String
  | uplink e => "uplink failed: " ++ e.message
  | downlink e => "downlink failed: " ++ e.message
  | signal r => r.text ++ " signal"
  | signalFailed e => "signal source failed: " ++ e.message
  | aborted => "all tasks exited without a report"

end Cause

inductive Role where
  | uplink
  | downlink
  | listener
  deriving DecidableEq, Repr

inductive Event where
  | entered (phase : Phase)
  | sent (datagram : Datagram)
  | sendFailed (e : HostError)
  | sendHung
  | received (datagram : Datagram)
  | receiveFailed (e : HostError)
  | created (settings : DeviceSettings) (outcome : Except HostError Unit)
  | raised (outcome : Except HostError Unit)
  | lowered (outcome : Except HostError Unit)
  | read (packet : Packet)
  | readFailed (e : HostError)
  | wrote (packet : Packet) (outcome : Except HostError Unit)
  | writeHung
  | closed (outcome : Except HostError Unit)
  | route (e : RouteEvent)
  | reported (cause : Cause)
  | broadcast
  | abandoned (role : Role)

end TunnelClient
