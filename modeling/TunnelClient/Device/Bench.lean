import TunnelClient.Device.Callers

/-!
# A bench of devices

A provider with the devices it has made and others, and the table that their
routes are in.  Calls that wait are numbered across all devices.
-/

namespace TunnelClient

structure DeviceBench where
  provider : DeviceProvider := {}
  table : Option RouteTable := none
  devices : List DeviceCalls := []
  created : Nat := 0
  calls : Nat := 0

namespace DeviceBench

def put (n : Nat) (d : DeviceCalls) (b : DeviceBench) : DeviceBench :=
  { b with devices := b.devices.set n d }

def add (d : Device) (b : DeviceBench) : DeviceBench :=
  { b with devices := b.devices ++ [{ device := d }] }

def create (s : DeviceSettings) (b : DeviceBench) : Except HostError Device × DeviceBench :=
  match b.provider.create s with
  | (.ok d, provider) => (.ok d, { b with provider := provider, created := b.created + 1 }.add d)
  | (.error e, provider) => (.error e, { b with provider := provider })

def bringDown (n : Nat) (d : DeviceCalls) (b : DeviceBench) : DeviceBench :=
  { b.put n d.bringDown with table := b.table.map d.device.routesAfterDown }

def called (b : DeviceBench) : DeviceBench := { b with calls := b.calls + 1 }

def collect (b : DeviceBench) : List (Nat × CallResult) × DeviceBench :=
  (b.devices.flatMap (·.returned),
    { b with devices := b.devices.map fun d => { d with returned := [] } })

end DeviceBench

end TunnelClient
