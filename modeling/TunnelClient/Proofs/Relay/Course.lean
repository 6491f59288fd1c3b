import Mathlib.Data.List.Induction
import TunnelClient.Proofs.Relay.Turns
import TunnelClient.Proofs.Session.Course
import TunnelClient.Session.Schedule

/-!
# Courses of a relay

Courses of a relay on its own: any sequence of steps of its two loops and of stimuli
between them.  What each move keeps is kept all along.
-/

namespace TunnelClient

theorem World.Relayed.opened {w w' : World} (h : World.Relayed w w')
    (opened : w.device.isSome = true) : w'.device.isSome = true := by
  rw [← Option.isSome_map (f := Device.standing), h.device, Option.isSome_map]
  exact opened

theorem World.Relayed.subset {w w' : World} (h : World.Relayed w w') : w.events ⊆ w'.events := by
  obtain ⟨es, hes, -⟩ := h.events
  rw [hes]
  exact List.subset_append_left ..

namespace Relay

variable {key : PresharedKey} {told : Bool} {events : List Event} {s s' : RelayStats} {l l' : Loop}

theorem DownlinkTurn.uplink_counts {i i' : Inflow}
    (h : DownlinkTurn key told events i i' s s' l l') :
    s'.uplinkPackets = s.uplinkPackets ∧ s'.uplinkBytes = s.uplinkBytes := by
  cases h <;> simp_all [RelayStats.countDownlink]

theorem UplinkTurn.downlink_counts {o o' : Outflow}
    (h : UplinkTurn key told events o o' s s' l l') :
    s'.downlinkPackets = s.downlinkPackets ∧ s'.downlinkBytes = s.downlinkBytes := by
  cases h <;> simp_all [RelayStats.countUplink]

theorem UplinkTurn.short {o o' : Outflow} (h : UplinkTurn key told events o o' s s' l l')
    {p : Packet} (holds : l' = .holding p) : p.length ≤ Frame.maxDatagram := by
  cases h with
  | take queue flow counts =>
      cases holds
      exact length_cut_le _
  | stop | lose | send | fail | hang => cases holds

end Relay

namespace RelayRun

/-- One thing that can happen to a relay.  `obey` says what a loop sees first if it is told to stop
and has input at once. -/
inductive Move where
  | stimulus (x : Stimulus)
  | uplink (obey : Bool)
  | downlink (obey : Bool)
  deriving DecidableEq, Repr

namespace Move

def datagrams : Move → List Datagram
  | stimulus x => x.datagrams
  | _ => []

def packets : Move → List Packet
  | stimulus x => x.packets
  | _ => []

end Move

def world (r : RelayRun) : World := r.traffic.world

def move (c : Setup) (r : RelayRun) : Move → RelayRun
  | .stimulus x => r.feel x
  | .uplink obey => (r.stepUplink c obey).getD r
  | .downlink obey => (r.stepDownlink c obey).getD r

def run (c : Setup) (r : RelayRun) (moves : List Move) : RelayRun := moves.foldl (move c) r

def begun (d : Device) (w : World) : RelayRun where
  traffic := { world := { w.forget with device := some d } }

variable {c : Setup} {r r' : RelayRun}

/-! ## Moves -/

/-- The relay has a device, and what its uplink holds is no longer than its buffer. -/
structure Fit (r : RelayRun) : Prop where
  opened : r.world.device.isSome = true
  short : ∀ p, r.uplink = .holding p → p.length ≤ Frame.maxDatagram

theorem fit_begun (d : Device) (w : World) : Fit (begun d w) :=
  ⟨rfl, fun _ h => nomatch h⟩

inductive MoveStep (c : Setup) (r r' : RelayRun) : Move → Prop
  | idle {m : Move} (datagrams : m.datagrams = []) (packets : m.packets = []) (same : r' = r) :
      MoveStep c r r' m
  | feel {x : Stimulus}
      (inflow : r'.world.inflow =
        { r.world.inflow with queued := r.world.inflow.queued ++ x.datagrams })
      (outflow : r'.world.outflow =
        { r.world.outflow with unread := r.world.outflow.unread ++ x.packets })
      (counts : r'.traffic.stats = r.traffic.stats) (uplink : r'.uplink = r.uplink)
      (downlink : r'.downlink = r.downlink) (told : r.told = true → r'.told = true)
      (events : r.world.events ⊆ r'.world.events) : MoveStep c r r' (.stimulus x)
  | uplink {obey : Bool}
      (turn : Relay.UplinkTurn c.key r.told r'.world.events r.world.outflow r'.world.outflow
        r.traffic.stats r'.traffic.stats r.uplink r'.uplink)
      (inflow : r'.world.inflow = r.world.inflow) (downlink : r'.downlink = r.downlink)
      (told : r'.told = r.told) (events : r.world.events ⊆ r'.world.events) :
      MoveStep c r r' (.uplink obey)
  | downlink {obey : Bool}
      (turn : Relay.DownlinkTurn c.key r.told r'.world.events r.world.inflow r'.world.inflow
        r.traffic.stats r'.traffic.stats r.downlink r'.downlink)
      (outflow : r'.world.outflow = r.world.outflow) (uplink : r'.uplink = r.uplink)
      (told : r'.told = r.told) (events : r.world.events ⊆ r'.world.events) :
      MoveStep c r r' (.downlink obey)

theorem feel_frame (x : Stimulus) (r : RelayRun) :
    (r.feel x).world = r.world.feel x ∧ (r.feel x).traffic.stats = r.traffic.stats ∧
      (r.feel x).uplink = r.uplink ∧ (r.feel x).downlink = r.downlink ∧
      (r.told = true → (r.feel x).told = true) := by
  cases x with
  | stop => exact ⟨rfl, rfl, rfl, rfl, fun _ => rfl⟩
  | _ => exact ⟨rfl, rfl, rfl, rfl, id⟩

private theorem move_feel (fit : Fit r) (x : Stimulus) :
    MoveStep c r (r.feel x) (.stimulus x) ∧ Fit (r.feel x) := by
  obtain ⟨hworld, hstats, huplink, hdownlink, htold⟩ := feel_frame x r
  obtain ⟨inflow, outflow⟩ := World.flow_feel x fit.opened
  obtain ⟨device, -, events⟩ := World.feel_spec x r.world
  have opened : (r.feel x).world.device.isSome = true := by
    rw [hworld, ← Option.isSome_map (f := Device.standing), device, Option.isSome_map]
    exact fit.opened
  refine ⟨.feel ?_ ?_ hstats huplink hdownlink htold ?_, opened, ?_⟩
  · rw [hworld, inflow]
  · rw [hworld, outflow]
  · rw [hworld, events]
    exact List.subset_append_left ..
  · rw [huplink]
    exact fit.short

private theorem move_uplink (fit : Fit r) (obey : Bool) :
    MoveStep c r (r.move c (.uplink obey)) (.uplink obey) ∧ Fit (r.move c (.uplink obey)) := by
  rw [move, stepUplink]
  cases hstep : Relay.uplinkStep c r.told obey r.uplink r.traffic with
  | none => exact ⟨.idle rfl rfl rfl, fit⟩
  | some next =>
      obtain ⟨l, t⟩ := next
      obtain ⟨turn, inflow, relayed⟩ := Relay.uplink_turn fit.short hstep
      exact ⟨.uplink turn inflow rfl rfl relayed.subset, relayed.opened fit.opened,
        fun _ => turn.short⟩

private theorem move_downlink (fit : Fit r) (obey : Bool) :
    MoveStep c r (r.move c (.downlink obey)) (.downlink obey) ∧
      Fit (r.move c (.downlink obey)) := by
  rw [move, stepDownlink]
  cases hstep : Relay.downlinkStep c r.told obey r.downlink r.traffic with
  | none => exact ⟨.idle rfl rfl rfl, fit⟩
  | some next =>
      obtain ⟨l, t⟩ := next
      obtain ⟨turn, outflow, relayed⟩ := Relay.downlink_turn fit.opened hstep
      exact ⟨.downlink turn outflow rfl rfl relayed.subset, relayed.opened fit.opened, fit.short⟩

theorem move_cases (fit : Fit r) (m : Move) : MoveStep c r (r.move c m) m ∧ Fit (r.move c m) := by
  cases m with
  | stimulus x => exact move_feel fit x
  | uplink obey => exact move_uplink fit obey
  | downlink obey => exact move_downlink fit obey

/-! ## Runs -/

theorem run_append (c : Setup) (r : RelayRun) (first second : List Move) :
    run c r (first ++ second) = run c (run c r first) second :=
  List.foldl_append ..

theorem run_induction {P : List Move → RelayRun → Prop} (fit : Fit r) (start : P [] r)
    (step : ∀ moves m r r', MoveStep c r r' m → P moves r → P (moves ++ [m]) r')
    (moves : List Move) : P moves (run c r moves) ∧ Fit (run c r moves) := by
  induction moves using List.reverseRecOn with
  | nil => exact ⟨start, fit⟩
  | append_singleton moves m ih =>
      obtain ⟨holds, fit'⟩ := ih
      obtain ⟨hstep, fit''⟩ := move_cases fit' m
      rw [run_append]
      exact ⟨step moves m _ _ hstep holds, fit''⟩

/-! ## A trial -/

namespace Trial

def first : Datagram :=
  [0, 0, 0, 0, 0, 0, 0, 0, 0, 0, 0, 0, 85, 249, 93, 0, 87, 80, 58, 121, 174, 23, 16, 126, 78, 4,
   66, 207, 20, 21, 115, 136, 117, 122, 136, 40]

def forged : Datagram :=
  [1, 0, 0, 0, 0, 0, 0, 0, 0, 0, 0, 0, 140, 14, 76, 81, 236, 17, 205, 211, 39, 135, 106, 241, 133,
   214, 161, 108, 181, 152, 124, 39, 195, 32, 194]

/-- Two packets and three datagrams come in, the second of which is forged, and then sending fails
while the relay is told to stop. -/
def moves : List Move :=
  [.stimulus (.packet [6]), .stimulus (.datagram first), .downlink false, .uplink false,
   .stimulus (.datagram forged), .downlink true, .uplink false, .stimulus (.datagram first),
   .stimulus (.packet [7, 8]), .stimulus (.packet [9]), .downlink false, .uplink false,
   .stimulus (.failSend "gone"), .stimulus .stop, .uplink true]

def device : Device := { settings := {} }

def relay : RelayRun := run Session.Trial.setup (begun device Session.Trial.world) moves

end Trial

end RelayRun

end TunnelClient
