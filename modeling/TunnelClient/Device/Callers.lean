import TunnelClient.Device.Basic

/-!
# Callers of a device

Callers that wait on a device: readers of packets, and takers of written ones.
Each side has a bell.  Ringing it wakes the caller that has waited longest, or
leaves one permit for the next that would wait; permits do not add up.  A caller
that is woken looks again and goes to the end of the queue if it finds nothing.
-/

namespace TunnelClient

structure Bell where
  permit : Bool := false
  queue : List Nat := []
  deriving DecidableEq, Repr

namespace Bell

def ring (b : Bell) : Option Nat × Bell :=
  match b.queue with
  | [] => (none, { b with permit := true })
  | caller :: rest => (some caller, { b with queue := rest })

/-- A caller that found nothing uses up the permit, finds nothing again, and waits. -/
def wait (caller : Nat) (b : Bell) : Bell := ⟨false, b.queue ++ [caller]⟩

end Bell

inductive CallResult where
  | packet (p : Packet)
  | failed (e : HostError)
  deriving DecidableEq, Repr

/-- A device and the calls on it.  `capacities` holds the buffer size of each reader, and
`returned` what finished calls gave, oldest first. -/
structure DeviceCalls where
  device : Device
  readable : Bell := {}
  written : Bell := {}
  capacities : List (Nat × Nat) := []
  returned : List (Nat × CallResult) := []
  deriving DecidableEq, Repr

namespace DeviceCalls

def finish (caller : Nat) (r : CallResult) (c : DeviceCalls) : DeviceCalls :=
  { c with returned := c.returned ++ [(caller, r)] }

def tryRead (caller : Nat) (c : DeviceCalls) : DeviceCalls :=
  match c.device.poll? ((c.capacities.lookup caller).getD 0) with
  | some (.ok p, device) => { c with device := device }.finish caller (.packet p)
  | some (.error e, device) => { c with device := device }.finish caller (.failed e)
  | none => { c with readable := c.readable.wait caller }

def tryTake (caller : Nat) (c : DeviceCalls) : DeviceCalls :=
  match c.device.takeOne? with
  | some (p, device) => { c with device := device }.finish caller (.packet p)
  | none => { c with written := c.written.wait caller }

def ringReadable (c : DeviceCalls) : DeviceCalls :=
  match c.readable.ring with
  | (some caller, bell) => { c with readable := bell }.tryRead caller
  | (none, bell) => { c with readable := bell }

def ringWritten (c : DeviceCalls) : DeviceCalls :=
  match c.written.ring with
  | (some caller, bell) => { c with written := bell }.tryTake caller
  | (none, bell) => { c with written := bell }

/-! ## The calls, each run until nothing moves -/

def read (caller capacity : Nat) (c : DeviceCalls) : DeviceCalls :=
  { c with capacities := (caller, capacity) :: c.capacities }.tryRead caller

def nextWritten (caller : Nat) (c : DeviceCalls) : DeviceCalls := c.tryTake caller

def inject (p : Packet) (c : DeviceCalls) : DeviceCalls :=
  { c with device := c.device.inject p }.ringReadable

def armRead (reason : String) (c : DeviceCalls) : DeviceCalls :=
  { c with device := c.device.armRead reason }.ringReadable

def armWrite (reason : String) (c : DeviceCalls) : DeviceCalls :=
  { c with device := c.device.armWrite reason }

def write (p : Packet) (c : DeviceCalls) : Except HostError Nat × DeviceCalls :=
  match c.device.write p with
  | (.ok (), device) => (.ok p.length, { c with device := device }.ringWritten)
  | (.error e, device) => (.error e, { c with device := device })

def takeWritten (c : DeviceCalls) : List Packet × DeviceCalls :=
  let (packets, device) := c.device.takeAll
  (packets, { c with device := device })

def bringUp (c : DeviceCalls) : DeviceCalls := { c with device := c.device.bringUp }

def bringDown (c : DeviceCalls) : DeviceCalls := { c with device := c.device.bringDown }

end DeviceCalls

end TunnelClient
