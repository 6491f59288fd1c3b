import TunnelClient.Failure.Client
import TunnelClient.Text.Blank
import TunnelClient.Text.Quoted
import TunnelClient.Wire.Seal

/-!
# The configuration

The client's configuration, section by section, with its defaults and with what
makes it valid.
-/

namespace TunnelClient

namespace Config

structure Peer where
  host : String := ""
  port : UInt16 := 9000
  deriving DecidableEq, Repr

structure KeySource where
  key : Option String := none
  keyFile : Option String := none
  passphrase : Option String := none
  deriving DecidableEq, Repr

structure Interface where
  deviceName : String := "tun0"
  mtu : UInt16 := 1400
  deriving DecidableEq, Repr

structure Handshake where
  seconds : UInt64 := 10
  deriving DecidableEq, Repr

structure Logging where
  level : String := "info"
  deriving DecidableEq, Repr

end Config

structure Config where
  peer : Config.Peer := {}
  crypto : Config.KeySource := {}
  tun : Config.Interface := {}
  handshake : Config.Handshake := {}
  logging : Config.Logging := {}
  deriving DecidableEq, Repr

namespace Config

/-! ## Validity -/

def Peer.validate (p : Peer) : Except ClientError Unit :=
  if (Text.trim p.host).isEmpty then .error (.configInvalid "peer.host" "cannot be empty")
  else if p.port = 0 then .error (.configInvalid "peer.port" "cannot be 0")
  else .ok ()

def KeySource.count (s : KeySource) : Nat :=
  [s.key, s.keyFile, s.passphrase].countP Option.isSome

def KeySource.validate (s : KeySource) : Except ClientError Unit :=
  match s.count with
  | 0 => .error (.configInvalid "crypto" "one of key, key_file or passphrase is required")
  | 1 => .ok ()
  | _ => .error (.configInvalid "crypto" "only one of key, key_file or passphrase may be set")

def minMtu : Nat := 576

/-- The largest packet that fits one datagram, sealed and with its header. -/
def maxMtu : Nat := Frame.maxDatagram - Seal.overhead - Frame.headerLength

def Interface.validate (t : Interface) : Except ClientError Unit :=
  let length := t.deviceName.utf8ByteSize
  let mtu := t.mtu.toNat
  if length = 0 then .error (.configInvalid "tun.device_name" "is empty")
  else if 15 < length then
    .error (.configInvalid "tun.device_name" s!"is {length} bytes, interface names hold at most 15")
  else if mtu < minMtu ∨ maxMtu < mtu then
    let largest := Frame.maxDatagram
    .error (.configInvalid "tun.mtu"
      s!"{mtu} is outside {minMtu}..={maxMtu} (a full packet must fit one {largest}-byte datagram)")
  else .ok ()

def Handshake.validate (h : Handshake) : Except ClientError Unit :=
  if h.seconds = 0 then .error (.configInvalid "handshake.timeout_secs" "must be greater than 0")
  else .ok ()

def validate (c : Config) : Except ClientError Unit := do
  c.peer.validate
  c.crypto.validate
  c.tun.validate
  c.handshake.validate

/-! ## What may be shown -/

def KeySource.text (s : KeySource) : String :=
  match s.key, s.keyFile, s.passphrase with
  | some _, _, _ => "inline key"
  | none, some path, _ => s!"key file {path}"
  | none, none, some _ => "passphrase"
  | none, none, none => "none"

def dumpOf (name : String) (fields : List (String × String)) : String :=
  name ++ " \x7b " ++ ", ".intercalate (fields.map fun (field, value) => field ++ ": " ++ value)
    ++ " \x7d"

def KeySource.dump (s : KeySource) : String :=
  dumpOf "CryptoConfig" [("source", Text.Quoted.quote s.text)]

def Peer.dump (p : Peer) : String :=
  dumpOf "PeerConfig" [("host", Text.Quoted.quote p.host), ("port", toString p.port.toNat)]

def Interface.dump (t : Interface) : String :=
  dumpOf "DeviceConfig"
    [("device_name", Text.Quoted.quote t.deviceName), ("mtu", toString t.mtu.toNat)]

def Handshake.dump (h : Handshake) : String :=
  dumpOf "HandshakeConfig" [("timeout_secs", toString h.seconds.toNat)]

def Logging.dump (l : Logging) : String :=
  dumpOf "LogConfig" [("level", Text.Quoted.quote l.level)]

def dump (c : Config) : String :=
  dumpOf "ClientConfig" [("peer", c.peer.dump), ("crypto", c.crypto.dump), ("tun", c.tun.dump),
    ("handshake", c.handshake.dump), ("logging", c.logging.dump)]

def redactedText : String := "[REDACTED]"

def KeySource.redacted (s : KeySource) : KeySource :=
  { s with
    key := s.key.map fun _ => redactedText
    passphrase := s.passphrase.map fun _ => redactedText }

def redacted (c : Config) : Config := { c with crypto := c.crypto.redacted }

/-! ## Changes from the command line -/

/-- Puts another peer in place of the configured one, as far as it is given. -/
def withPeer (host : Option String) (port : Option UInt16) (c : Config) : Config :=
  { c with peer := ⟨host.getD c.peer.host, port.getD c.peer.port⟩ }

end Config

end TunnelClient
