import TunnelClient.Config.Basic
import TunnelClient.Toml.Printer
import TunnelClient.Toml.Reader

/-!
# Configurations in TOML

Configurations as TOML documents.  A section is a table, or an array of its
values in order; what is missing takes its default, and unknown keys and surplus
values are ignored.
-/

namespace TunnelClient.Config

open Toml (Value Entries)

/-! ## Reading -/

inductive Given where
  | named (entries : Entries)
  | listed (items : List Value)

def given? : Option Value → Option Given
  | none => some (.named [])
  | some (.table entries) => some (.named entries)
  | some (.array items) => some (.listed items)
  | some (.datetime _) => some (.named [])
  | some _ => none

def Given.get? (g : Given) (position : Nat) (key : String) : Option Value :=
  match g with
  | .named entries => entries.lookup key
  | .listed items => items[position]?

def textOr? (fallback : String) : Option Value → Option String
  | none => some fallback
  | some (.string s) => some s
  | some _ => none

def optionalText? : Option Value → Option (Option String)
  | none => some none
  | some (.string s) => some (some s)
  | some _ => none

def numberOr? (bound fallback : Nat) : Option Value → Option Nat
  | none => some fallback
  | some (.integer i) => if 0 ≤ i ∧ i < bound then some i.toNat else none
  | some _ => none

def Peer.ofGiven? (g : Given) : Option Peer := do
  let host ← textOr? ({} : Peer).host (g.get? 0 "host")
  let port ← numberOr? UInt16.size ({} : Peer).port.toNat (g.get? 1 "port")
  some ⟨host, .ofNat port⟩

def KeySource.ofGiven? (g : Given) : Option KeySource := do
  let key ← optionalText? (g.get? 0 "key")
  let keyFile ← optionalText? (g.get? 1 "key_file")
  let passphrase ← optionalText? (g.get? 2 "passphrase")
  some ⟨key, keyFile, passphrase⟩

def Interface.ofGiven? (g : Given) : Option Interface := do
  let deviceName ← textOr? ({} : Interface).deviceName (g.get? 0 "device_name")
  let mtu ← numberOr? UInt16.size ({} : Interface).mtu.toNat (g.get? 1 "mtu")
  some ⟨deviceName, .ofNat mtu⟩

def Handshake.ofGiven? (g : Given) : Option Handshake := do
  let seconds ← numberOr? UInt64.size ({} : Handshake).seconds.toNat (g.get? 0 "timeout_secs")
  some ⟨.ofNat seconds⟩

def Logging.ofGiven? (g : Given) : Option Logging := do
  let level ← textOr? ({} : Logging).level (g.get? 0 "level")
  some ⟨level⟩

def ofEntries? (entries : Entries) : Option Config := do
  let peer ← given? (entries.lookup "peer") >>= Peer.ofGiven?
  let crypto ← given? (entries.lookup "crypto") >>= KeySource.ofGiven?
  let tun ← given? (entries.lookup "tun") >>= Interface.ofGiven?
  let handshake ← given? (entries.lookup "handshake") >>= Handshake.ofGiven?
  let logging ← given? (entries.lookup "logging") >>= Logging.ofGiven?
  some ⟨peer, crypto, tun, handshake, logging⟩

def parse? (text : String) : Option Config := Toml.parse? text >>= ofEntries?

/-! ## Printing -/

def optionalField (key : String) (s : Option String) : List (String × Toml.Field) :=
  s.toList.map fun s => (key, .text s)

def sections (c : Config) : List Toml.Section :=
  [⟨"peer", [("host", .text c.peer.host), ("port", .number c.peer.port.toNat)]⟩,
    ⟨"crypto", optionalField "key" c.crypto.key ++ optionalField "key_file" c.crypto.keyFile
      ++ optionalField "passphrase" c.crypto.passphrase⟩,
    ⟨"tun", [("device_name", .text c.tun.deviceName), ("mtu", .number c.tun.mtu.toNat)]⟩,
    ⟨"handshake", [("timeout_secs", .number c.handshake.seconds.toNat)]⟩,
    ⟨"logging", [("level", .text c.logging.level)]⟩]

/-- The document of a configuration, secrets redacted; empty if a number is no TOML integer. -/
def toToml (c : Config) : String :=
  if Toml.maxInteger < (c.handshake.seconds.toNat : Int) then ""
  else String.ofList (Toml.sectionsText c.redacted.sections)

end TunnelClient.Config
