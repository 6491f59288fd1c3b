import TunnelClient.Address.Endpoint
import TunnelClient.Failure.System

/-!
# Host errors

What can go wrong between the client and its host: sockets, the TUN device, the
routing table and the system below them.
-/

namespace TunnelClient

inductive HostError where
  | bindFailed (address : Endpoint) (reason : String)
  | connectFailed (address : Endpoint) (reason : String)
  | sendFailed (destination : Endpoint) (reason : String)
  | receiveFailed (reason : String)
  | addressInUse (address : Endpoint)
  | shuttingDown
  | tunCreateFailed (name reason : String)
  | tunConfigFailed (name reason : String)
  | tunReadFailed (reason : String)
  | tunWriteFailed (reason : String)
  | routeCommandFailed (command reason : String)
  | noDefaultGateway
  | invalidConfig (field reason : String)
  | permissionDenied (operation : String)
  | io (context : String) (source : SystemError)
  deriving DecidableEq, Repr

inductive HostErrorKind where
  | network
  | device
  | route
  | config
  | system
  deriving DecidableEq, Repr

def HostErrorKind.name : HostErrorKind → String
  | network => "Network"
  | device => "Device"
  | route => "Route"
  | config => "Config"
  | system => "System"

namespace HostError

def name : HostError → String
  | bindFailed _ _ => "BindFailed"
  | connectFailed _ _ => "ConnectFailed"
  | sendFailed _ _ => "SendFailed"
  | receiveFailed _ => "ReceiveFailed"
  | addressInUse _ => "AddressInUse"
  | shuttingDown => "ShuttingDown"
  | tunCreateFailed _ _ => "TunCreateFailed"
  | tunConfigFailed _ _ => "TunConfigFailed"
  | tunReadFailed _ => "TunReadFailed"
  | tunWriteFailed _ => "TunWriteFailed"
  | routeCommandFailed _ _ => "RouteCommandFailed"
  | noDefaultGateway => "NoDefaultGateway"
  | invalidConfig _ _ => "InvalidConfig"
  | permissionDenied _ => "PermissionDenied"
  | io _ _ => "Io"

def message : HostError → String
  | bindFailed address reason => "Cannot bind UDP socket to " ++ address.text ++ ": " ++ reason
  | connectFailed address reason =>
    "Cannot connect UDP socket to " ++ address.text ++ ": " ++ reason
  | sendFailed destination reason =>
    "Datagram to " ++ destination.text ++ " not sent: " ++ reason
  | receiveFailed reason => s!"Datagram receive failed: {reason}"
  | addressInUse address => "Local address " ++ address.text ++ " is taken"
  | shuttingDown => "UDP socket is shut down"
  | tunCreateFailed name reason => s!"Cannot open TUN device '{name}': {reason}"
  | tunConfigFailed name reason => s!"Cannot configure TUN device '{name}': {reason}"
  | tunReadFailed reason => s!"Reading from TUN device failed: {reason}"
  | tunWriteFailed reason => s!"Writing to TUN device failed: {reason}"
  | routeCommandFailed command reason => s!"Route command `{command}` failed: {reason}"
  | noDefaultGateway => "Routing table has no IPv4 default gateway"
  | invalidConfig field reason => s!"Invalid {field}: {reason}"
  | permissionDenied operation => s!"Operation not permitted: {operation}"
  | io context _ => context

def causes : HostError → List String
  | io _ source => [source.message]
  | _ => []

/-- A refused permission becomes an error of its own; all else is wrapped. -/
def ofSystem (e : SystemError) : HostError :=
  if e.isPermissionDenied then .permissionDenied e.message else .io "I/O error" e

/-! ## Classes -/

def kind : HostError → HostErrorKind
  | bindFailed _ _ | connectFailed _ _ | sendFailed _ _ | receiveFailed _ | addressInUse _
  | shuttingDown => .network
  | tunCreateFailed _ _ | tunConfigFailed _ _ | tunReadFailed _ | tunWriteFailed _ => .device
  | routeCommandFailed _ _ | noDefaultGateway => .route
  | invalidConfig _ _ => .config
  | permissionDenied _ | io _ _ => .system

def requiresPrivileges : HostError → Bool
  | permissionDenied _ | tunCreateFailed _ _ => true
  | _ => false

end HostError

end TunnelClient
