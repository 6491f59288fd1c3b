import TunnelClient.Failure.Host
import TunnelClient.Text.Quoted

/-!
# Device settings

The settings of a TUN device, and what a host accepts of them.
-/

namespace TunnelClient

structure DeviceSettings where
  name : String := "tun0"
  address : Ipv4 := Ipv4.unspecified
  prefixLength : UInt8 := 24
  mtu : UInt16 := 1400
  deriving DecidableEq, Repr

namespace DeviceSettings

/-- Checked in the order name, address, prefix, MTU; the first fault is reported. -/
def validate (s : DeviceSettings) : Except HostError Unit :=
  let name := s.name
  let length := s.prefixLength.toNat
  let mtu := s.mtu.toNat
  if name.utf8ByteSize = 0 ∨ 15 < name.utf8ByteSize then
    .error (.invalidConfig "name" s!"'{name}' must be 1-15 bytes")
  else if s.address = Ipv4.unspecified then
    .error (.invalidConfig "address" "no address granted yet")
  else if length = 0 ∨ 32 < length then
    .error (.invalidConfig "prefix_len" s!"/{length} is not a usable IPv4 prefix")
  else if mtu < 576 ∨ 9000 < mtu then
    .error (.invalidConfig "mtu" s!"{mtu} outside 576..=9000")
  else .ok ()

def withAddress (address : Ipv4) (s : DeviceSettings) : DeviceSettings :=
  { s with address := address }

def cidr (s : DeviceSettings) : String :=
  s.address.text ++ "/" ++ toString s.prefixLength.toNat

def dump (s : DeviceSettings) : String :=
  "TunConfig \x7b name: " ++ Text.Quoted.quote s.name ++ ", address: " ++ s.address.text
    ++ ", prefix_len: " ++ toString s.prefixLength.toNat ++ ", mtu: " ++ toString s.mtu.toNat
    ++ " \x7d"

end DeviceSettings

end TunnelClient
