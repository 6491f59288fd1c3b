import TunnelClient.Session.World

/-!
# The relay loops

The two relay loops.  The uplink reads packets from the device and sends them
sealed; the downlink opens what the peer sends and writes the packets to the
device.  Each ends with its first error, or when told to while it waits.
-/

namespace TunnelClient

/-- Counts of packets and bytes, modulo 2^64. -/
structure RelayStats where
  uplinkPackets : UInt64 := 0
  uplinkBytes : UInt64 := 0
  downlinkPackets : UInt64 := 0
  downlinkBytes : UInt64 := 0
  deriving DecidableEq, Repr

namespace RelayStats

def countUplink (length : Nat) (s : RelayStats) : RelayStats :=
  { s with
    uplinkPackets := s.uplinkPackets + 1
    uplinkBytes := s.uplinkBytes + UInt64.ofNat length }

def countDownlink (length : Nat) (s : RelayStats) : RelayStats :=
  { s with
    downlinkPackets := s.downlinkPackets + 1
    downlinkBytes := s.downlinkBytes + UInt64.ofNat length }

end RelayStats

/-- A loop waits for input, holds a packet that it has to pass on, is stuck in a call that does
not return, or has ended: cancelled, or with an error. -/
inductive Loop where
  | waiting
  | holding (packet : Packet)
  | stuck
  | ended (error : Option ClientError)
  deriving DecidableEq, Repr

structure Traffic where
  world : World
  stats : RelayStats := {}

namespace Relay

def packetOf (key : PresharedKey) (d : Datagram) : Except WireError Packet := do
  let f ← Seal.unwrapFrame key d
  let f ← f.expect .data
  pure f.payload

/-! ## Uplink -/

def uplinkInput (t : Traffic) : Option (Loop × Traffic) :=
  match t.world.readPacket? with
  | none => none
  | some (.ok p, w) => some (.holding p, { t with world := w })
  | some (.error e, w) => some (.ended (some (.ofHost e)), { t with world := w })

def uplinkOutput (c : Setup) (p : Packet) (t : Traffic) : Loop × Traffic :=
  match t.world.sealFrame c ⟨.data, p⟩ with
  | (.error e, w) => (.ended (some (.ofWire e)), { t with world := w })
  | (.ok d, w) =>
    match w.send c d with
    | (.done, w) => (.waiting, ⟨w, t.stats.countUplink p.length⟩)
    | (.failed e, w) => (.ended (some (.ofHost e)), { t with world := w })
    | (.hangs, w) => (.stuck, { t with world := w })

/-! ## Downlink -/

def downlinkInput (c : Setup) (t : Traffic) : Option (Loop × Traffic) :=
  match t.world.receive? with
  | none => none
  | some (.error e, w) => some (.ended (some (.ofHost e)), { t with world := w })
  | some (.ok d, w) =>
    match packetOf c.key d with
    | .ok p => some (.holding p, { t with world := w })
    | .error e => some (.ended (some (.ofWire e)), { t with world := w })

def downlinkOutput (p : Packet) (t : Traffic) : Loop × Traffic :=
  match t.world.writePacket p with
  | (.done, w) => (.waiting, ⟨w, t.stats.countDownlink p.length⟩)
  | (.failed e, w) => (.ended (some (.ofHost e)), { t with world := w })
  | (.hangs, w) => (.stuck, { t with world := w })

/-! ## Steps -/

/-- The end of a loop that is told to stop while it waits.  If there is input as well, `obey`
decides which of the two is seen first. -/
def cancel (told obey : Bool) (input : Option (Loop × Traffic)) (t : Traffic) :
    Option (Loop × Traffic) :=
  match input with
  | some next => if told && obey then some (.ended none, t) else some next
  | none => if told then some (.ended none, t) else none

def uplinkStep (c : Setup) (told obey : Bool) (l : Loop) (t : Traffic) :
    Option (Loop × Traffic) :=
  match l with
  | .waiting => cancel told obey (uplinkInput t) t
  | .holding p => some (uplinkOutput c p t)
  | .stuck | .ended _ => none

def downlinkStep (c : Setup) (told obey : Bool) (l : Loop) (t : Traffic) :
    Option (Loop × Traffic) :=
  match l with
  | .waiting => cancel told obey (downlinkInput c t) t
  | .holding p => some (downlinkOutput p t)
  | .stuck | .ended _ => none

def dump (deviceName : String) (peer : Endpoint) : String :=
  "Relay \x7b device: " ++ Text.Quoted.quote deviceName ++ ", peer: " ++ peer.text ++ " \x7d"

end Relay

/-! ## A relay on its own -/

/-- The loops over a device, and whether they were told to stop. -/
structure RelayRun where
  traffic : Traffic
  uplink : Loop := .waiting
  downlink : Loop := .waiting
  told : Bool := false

namespace RelayRun

def stepUplink (c : Setup) (obey : Bool) (r : RelayRun) : Option RelayRun :=
  (Relay.uplinkStep c r.told obey r.uplink r.traffic).map fun (l, t) =>
    { r with uplink := l, traffic := t }

def stepDownlink (c : Setup) (obey : Bool) (r : RelayRun) : Option RelayRun :=
  (Relay.downlinkStep c r.told obey r.downlink r.traffic).map fun (l, t) =>
    { r with downlink := l, traffic := t }

end RelayRun

end TunnelClient
