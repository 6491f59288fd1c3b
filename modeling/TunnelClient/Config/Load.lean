import TunnelClient.Address.Numbers
import TunnelClient.Config.Document
import TunnelClient.Device.Settings
import TunnelClient.Wire.Key

/-!
# Loading a configuration

From a configuration to what a session needs: its text, its key, the peer's
address, and the template of the device.  Files and names are looked up by
functions that the caller gives.
-/

namespace TunnelClient.Config

abbrev ReadText := String → Except ReadFailure String

abbrev Lookup := String → Except SystemError (List IpAddress)

/-! ## Loading -/

def malformed : String := "not a configuration in TOML"

def ofText (path text : String) : Except ClientError Config :=
  match parse? text with
  | some c => .ok c
  | none => .error (.configLoad path malformed)

def read (readText : ReadText) (path : String) : Except ClientError Config :=
  match readText path with
  | .ok text => ofText path text
  | .error e => .error (.configLoad path e.error.message)

def validated (c : Config) : Except ClientError Config := do
  c.validate
  pure c

def load (readText : ReadText) (path : String) : Except ClientError Config :=
  read readText path >>= validated

def ofString (text : String) : Except ClientError Config := ofText "<string>" text >>= validated

/-! ## The key -/

def keyOf : Except WireError PresharedKey → Except ClientError PresharedKey :=
  Except.mapError .ofWire

/-- Of several places the first of key, file and passphrase counts. -/
def KeySource.presharedKey (readText : ReadText) (s : KeySource) :
    Except ClientError PresharedKey :=
  match s.key, s.keyFile, s.passphrase with
  | some key, _, _ => keyOf (PresharedKey.ofBase64 key)
  | none, some path, _ =>
    match readText path with
    | .ok text => keyOf (PresharedKey.ofBase64 text)
    | .error e => .error (.configLoad path e.error.message)
  | none, none, some passphrase => keyOf (PresharedKey.ofPassphrase passphrase)
  | none, none, none => .error (.configInvalid "crypto" "no key source configured")

/-! ## The peer -/

def literal? (host : String) : Option IpAddress :=
  (Endpoint.literal? host).or ((Ipv4.ofNumbers? host).map .v4)

/-- A literal is its own address and no name with a NUL can be looked up. -/
def addresses (lookup : Lookup) (host : String) : Except SystemError (List IpAddress) :=
  match literal? host with
  | some a => .ok [a]
  | none => if host.contains '\x00' then .error .nulInName else lookup host

def ipv4? : IpAddress → Option Ipv4
  | .v4 a => some a
  | .v6 _ => none

def Peer.resolve (lookup : Lookup) (p : Peer) : Except ClientError Endpoint :=
  let host := Text.trim p.host
  match addresses lookup host with
  | .error e => .error (.resolve host e.message)
  | .ok found =>
    match found.findSome? ipv4? with
    | some a => .ok (.ofIpv4 a p.port)
    | none => .error (.configInvalid "peer.host" s!"'{host}' has no IPv4 address")

/-! ## The session -/

/-- The template of the device; the peer grants its address. -/
def deviceSettings (c : Config) : DeviceSettings :=
  { name := c.tun.deviceName, mtu := c.tun.mtu }

end TunnelClient.Config
