import TunnelClient.Device.Settings
import TunnelClient.Route.Table
import TunnelClient.Wire.Frame

/-!
# A TUN device in memory

A TUN device kept in memory: packets that the host routed into it wait to be
read, packets written to it wait to be taken.  A read or a write can be armed to
fail once; an armed read failure comes before any packet and uses none up.
-/

namespace TunnelClient

structure Device where
  settings : DeviceSettings
  inbound : List Packet := []
  outbound : List Packet := []
  readFailure : Option String := none
  writeFailure : Option String := none
  up : Bool := false
  downCalls : Nat := 0
  deriving DecidableEq, Repr

namespace Device

def inject (p : Packet) (d : Device) : Device := { d with inbound := d.inbound ++ [p] }

def armRead (reason : String) (d : Device) : Device := { d with readFailure := some reason }

def armWrite (reason : String) (d : Device) : Device := { d with writeFailure := some reason }

def poll? (capacity : Nat) (d : Device) : Option (Except HostError Packet × Device) :=
  match d.readFailure with
  | some reason => some (.error (.tunReadFailed reason), { d with readFailure := none })
  | none =>
    match d.inbound with
    | [] => none
    | p :: rest => some (.ok (p.take capacity), { d with inbound := rest })

def write (p : Packet) (d : Device) : Except HostError Unit × Device :=
  match d.writeFailure with
  | some reason => (.error (.tunWriteFailed reason), { d with writeFailure := none })
  | none => (.ok (), { d with outbound := d.outbound ++ [p] })

def takeOne? (d : Device) : Option (Packet × Device) :=
  match d.outbound with
  | [] => none
  | p :: rest => some (p, { d with outbound := rest })

def takeAll (d : Device) : List Packet × Device := (d.outbound, { d with outbound := [] })

def bringUp (d : Device) : Device := { d with up := true }

def bringDown (d : Device) : Device := { d with up := false, downCalls := d.downCalls + 1 }

/-- The routes that are left when the device is brought down; a device that was down already
takes none away. -/
def routesAfterDown (d : Device) (t : RouteTable) : RouteTable :=
  if d.up then t.linkDown d.settings.address d.settings.prefixLength.toNat else t

/-! ## State dump -/

def listText (items : List String) : String := "[" ++ ", ".intercalate items ++ "]"

def packetsText (packets : List Packet) : String :=
  listText (packets.map fun p => listText (p.map fun b => toString b.toNat))

def reasonText : Option String → String
  | none => "None"
  | some reason => "Some(" ++ Text.Quoted.quote reason ++ ")"

def dump (d : Device) : String :=
  "MockTun \x7b config: " ++ d.settings.dump ++ ", state: DeviceState \x7b inbound: "
    ++ packetsText d.inbound ++ ", outbound: " ++ packetsText d.outbound ++ ", read_failure: "
    ++ reasonText d.readFailure ++ ", write_failure: " ++ reasonText d.writeFailure ++ ", up: "
    ++ toString d.up ++ ", down_calls: " ++ toString d.downCalls ++ " \x7d \x7d"

end Device

/-- Opens devices, and can be armed to fail once.  Devices of a linked provider take their routes
with them when they go down. -/
structure DeviceProvider where
  createFailure : Option String := none
  linked : Bool := true
  deriving DecidableEq, Repr

namespace DeviceProvider

def arm (reason : String) (p : DeviceProvider) : DeviceProvider :=
  { p with createFailure := some reason }

/-- Invalid settings are refused before an armed failure is used up. -/
def create (s : DeviceSettings) (p : DeviceProvider) : Except HostError Device × DeviceProvider :=
  match s.validate with
  | .error e => (.error e, p)
  | .ok () =>
    match p.createFailure with
    | some reason =>
      (.error (.tunCreateFailed s.name reason), { p with createFailure := none })
    | none => (.ok { settings := s }, p)

end DeviceProvider

end TunnelClient
