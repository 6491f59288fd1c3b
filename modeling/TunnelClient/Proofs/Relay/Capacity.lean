import Mathlib.Data.List.Forall2
import TunnelClient.Config.Load
import TunnelClient.Proofs.Address.Tunnel
import TunnelClient.Proofs.Config.Validity
import TunnelClient.Proofs.Relay.Course

/-!
# What a datagram can carry

What a valid configuration is enough for.  The device accepts its settings whatever
address the peer grants, and no packet that fits the device's MTU is ever cut on its way
from one relay to another.
-/

namespace TunnelClient

/-! ## Settings -/

private theorem Ipv4.ne_unspecified_of_isUsable {a : Ipv4} (usable : a.isUsable = true) :
    a ≠ Ipv4.unspecified := by
  rintro rfl
  simp [isUsable] at usable

private theorem Frame.isUsable_of_grantedAddress {f : Frame} {a : TunnelAddress}
    (accepted : f.grantedAddress = .ok a) : a.inner.isUsable = true :=
  Ipv4.isUsable_iff.mpr (grantedAddress_eq_ok_iff.mp accepted).2

private theorem DeviceSettings.validate_withAddress {config : Config} {a : Ipv4}
    (valid : config.tun.validate = .ok ()) (usable : a.isUsable = true) :
    (config.deviceSettings.withAddress a).validate = .ok () := by
  obtain ⟨⟨named, short⟩, low, high⟩ := Config.Interface.validate_eq_ok valid
  have address := Ipv4.ne_unspecified_of_isUsable usable
  have largest : Config.maxMtu ≤ 9000 := by decide
  rw [Config.minMtu] at low
  have name : ¬(config.tun.deviceName.utf8ByteSize = 0 ∨
      15 < config.tun.deviceName.utf8ByteSize) := by
    omega
  have length : ¬((24 : UInt8).toNat = 0 ∨ 32 < (24 : UInt8).toNat) := by decide
  have mtu : ¬(config.tun.mtu.toNat < 576 ∨ 9000 < config.tun.mtu.toNat) := by omega
  exact (if_neg name).trans ((if_neg address).trans ((if_neg length).trans (if_neg mtu)))

private theorem DeviceProvider.create_ne_invalidConfig {s : DeviceSettings}
    (valid : s.validate = .ok ()) (p : DeviceProvider) (field reason : String) :
    (p.create s).1 ≠ .error (.invalidConfig field reason) := by
  rw [create, valid]
  cases p.createFailure <;> simp

/-! ## A packet on its way -/

private theorem Seal.length_of_wrapFrame {key : PresharedKey} {nonce : Nonce} {f : Frame}
    {d : Datagram} (h : wrapFrame key nonce f = .ok d) :
    d.length = f.payload.length + Frame.headerLength + overhead := by
  rw [length_of_wrap h, Frame.length_encode]

namespace World

variable {w : World}

structure SendsFreely (w : World) : Prop where
  active : w.socket.active = true
  sends : w.socket.sendFailure = none
  returns : w.socket.sendHangs = false
  reads : ∃ d, w.device = some d ∧ d.readFailure = none

structure ReceivesFreely (w : World) : Prop where
  active : w.socket.active = true
  receives : w.socket.receiveFailure = none
  returns : w.writeHangs = false
  writes : ∃ d, w.device = some d ∧ d.writeFailure = none

theorem SendsFreely.readPacket? (free : SendsFreely w) {whole : Packet} {rest : List Packet}
    (queue : w.outflow.unread = whole :: rest) :
    ∃ w', w.readPacket? = some (.ok (cut whole), w') ∧ SendsFreely w' ∧
      w'.outflow = { w.outflow with unread := rest, read := w.outflow.read ++ [cut whole] } := by
  obtain ⟨device, hdevice, armed⟩ := free.reads
  have inbound : device.inbound = whole :: rest := by simpa [outflow, hdevice] using queue
  have call : w.readPacket? = some (.ok (cut whole),
      { w with device := some { device with inbound := rest } }.record (.read (cut whole))) := by
    simp [World.readPacket?, hdevice, Device.poll?, armed, inbound, cut]
  have spec := readPacket?_spec w
  rw [call] at spec
  obtain ⟨-, whole', rest', queue', -, flow⟩ := spec
  obtain ⟨rfl, rfl⟩ := List.cons.inj (queue.symm.trans queue')
  exact ⟨_, call, ⟨free.active, free.sends, free.returns, _, rfl, armed⟩, flow⟩

theorem SendsFreely.sealFrame (free : SendsFreely w) (c : Setup) (f : Frame) :
    SendsFreely (w.sealFrame c f).2 :=
  ⟨free.active, free.sends, free.returns, free.reads⟩

theorem SendsFreely.send (free : SendsFreely w) (c : Setup) (d : Datagram) :
    (w.send c d).1 = .done ∧ SendsFreely (w.send c d).2 := by
  obtain ⟨active, sends, returns, reads⟩ := free
  have call : (w.socket.send c.peer).1 = .done ∧ (w.socket.send c.peer).2.active = true ∧
      (w.socket.send c.peer).2.sendFailure = none ∧
      (w.socket.send c.peer).2.sendHangs = false := by
    cases hgone : w.socket.peerGone <;> simp [Socket.send, active, sends, returns, hgone]
  rw [World.send]
  cases hsend : w.socket.send c.peer with
  | mk result socket =>
      rw [hsend] at call
      obtain ⟨rfl, active', sends', returns'⟩ := call
      exact ⟨rfl, active', sends', returns', reads⟩

theorem ReceivesFreely.receive? (free : ReceivesFreely w) {whole : Datagram}
    {rest : List Datagram} (queue : w.inflow.queued = whole :: rest) :
    ∃ w', w.receive? = some (.ok (cut whole), w') ∧ ReceivesFreely w' ∧
      w'.inflow =
        { w.inflow with queued := rest, received := w.inflow.received ++ [cut whole] } := by
  have inbound : w.socket.inbound = whole :: rest := queue
  have call : w.receive? = some (.ok (cut whole),
      { w with socket := { w.socket with inbound := rest } }.record (.received (cut whole))) := by
    simp [World.receive?, Socket.poll?, free.active, free.receives, inbound, cut]
  have spec := receive?_spec w
  rw [call] at spec
  obtain ⟨-, whole', rest', queue', -, flow⟩ := spec
  obtain ⟨rfl, rfl⟩ := List.cons.inj (queue.symm.trans queue')
  exact ⟨_, call, ⟨free.active, free.receives, free.returns, free.writes⟩, flow⟩

theorem ReceivesFreely.writePacket (free : ReceivesFreely w) (p : Packet) :
    (w.writePacket p).1 = .done ∧ ReceivesFreely (w.writePacket p).2 := by
  obtain ⟨active, receives, returns, device, hdevice, armed⟩ := free
  have call : w.writePacket p =
      (.done, { w with device := some { device with outbound := device.outbound ++ [p] } }.record
        (.wrote p (.ok ()))) := by
    simp [World.writePacket, returns, hdevice, Device.write, armed]
  rw [call]
  exact ⟨rfl, active, receives, returns, _, rfl, armed⟩

end World

namespace RelayRun

open Relay

variable {c : Setup} {r : RelayRun}

structure UplinkReady (r : RelayRun) : Prop where
  waiting : r.uplink = .waiting
  untold : r.told = false
  free : r.world.SendsFreely

structure DownlinkReady (r : RelayRun) : Prop where
  waiting : r.downlink = .waiting
  untold : r.told = false
  free : r.world.ReceivesFreely

def uplinkMoves (n : Nat) (obey : Bool) : List Move :=
  (List.replicate n [.uplink obey, .uplink obey]).flatten

def downlinkMoves (n : Nat) (obey : Bool) : List Move :=
  (List.replicate n [.downlink obey, .downlink obey]).flatten

def Encloses (key : PresharedKey) (d : Datagram) (p : Packet) : Prop :=
  Carries key d p ∧ d.length = p.length + Frame.headerLength + Seal.overhead

private theorem uplink_read (ready : UplinkReady r) {whole : Packet} {rest : List Packet}
    (queue : r.world.outflow.unread = whole :: rest) (obey : Bool) :
    ∃ w, r.move c (.uplink obey) =
        { r with uplink := .holding (cut whole), traffic := { r.traffic with world := w } } ∧
      w.SendsFreely ∧
      w.outflow =
        { r.world.outflow with unread := rest, read := r.world.outflow.read ++ [cut whole] } := by
  obtain ⟨w, call, free, flow⟩ := ready.free.readPacket? queue
  change r.traffic.world.readPacket? = _ at call
  refine ⟨w, ?_, free, flow⟩
  simp [move, stepUplink, uplinkStep, ready.waiting, ready.untold, uplinkInput, call, cancel]

private theorem uplink_send {p : Packet} (holds : r.uplink = .holding p) (untold : r.told = false)
    (free : r.world.SendsFreely) (short : p.length ≤ Frame.maxDatagram) (obey : Bool) :
    ∃ d, Encloses c.key d p ∧ UplinkReady (r.move c (.uplink obey)) ∧
      (r.move c (.uplink obey)).world.outflow =
        { r.world.outflow with sent := r.world.outflow.sent ++ [d] } := by
  obtain ⟨d, hwrap⟩ := Seal.exists_wrap c.key (c.nonces r.world.drawn) (fits_encode short)
  obtain ⟨done, free'⟩ := (free.sealFrame c ⟨.data, p⟩).send c d
  have flow := (World.send_spec c d (r.world.sealFrame c ⟨.data, p⟩).2).2
  rw [if_pos done] at flow
  have next : r.move c (.uplink obey) =
      { r with
        uplink := .waiting
        traffic := ⟨((r.world.sealFrame c ⟨.data, p⟩).2.send c d).2,
          r.traffic.stats.countUplink p.length⟩ } := by
    have sealed : r.traffic.world.sealFrame c ⟨.data, p⟩ =
        (.ok d, (r.world.sealFrame c ⟨.data, p⟩).2) := Prod.ext hwrap rfl
    have sent : (r.world.sealFrame c ⟨.data, p⟩).2.send c d =
        (.done, ((r.world.sealFrame c ⟨.data, p⟩).2.send c d).2) := Prod.ext done rfl
    simp only [move, stepUplink, holds, uplinkStep, uplinkOutput, sealed, Option.map_some,
      Option.getD_some]
    rw [sent]
  rw [next]
  exact ⟨d, ⟨carries_of_wrapFrame hwrap, Seal.length_of_wrapFrame hwrap⟩, ⟨rfl, untold, free'⟩,
    flow⟩

private theorem uplink_passes (ready : UplinkReady r) {whole : Packet} {rest : List Packet}
    (queue : r.world.outflow.unread = whole :: rest) (obey : Bool) :
    ∃ d, Encloses c.key d (cut whole) ∧ UplinkReady (run c r [.uplink obey, .uplink obey]) ∧
      (run c r [.uplink obey, .uplink obey]).world.outflow =
        ⟨rest, r.world.outflow.read ++ [cut whole], r.world.outflow.sent ++ [d]⟩ := by
  obtain ⟨w, hmove, free, flow⟩ := uplink_read (c := c) ready queue obey
  rw [run, List.foldl_cons, List.foldl_cons, List.foldl_nil, hmove]
  obtain ⟨d, encloses, ready', flow'⟩ := uplink_send (c := c)
    (r := { r with uplink := .holding (cut whole), traffic := { r.traffic with world := w } })
    rfl ready.untold free (length_cut_le whole) obey
  refine ⟨d, encloses, ready', ?_⟩
  rw [flow']
  change { w.outflow with sent := w.outflow.sent ++ [d] } = _
  rw [flow]

theorem uplink_drains {packets more : List Packet} (ready : UplinkReady r)
    (queue : r.world.outflow.unread = packets ++ more) (obey : Bool) :
    ∃ datagrams, List.Forall₂ (Encloses c.key) datagrams (packets.map cut) ∧
      (run c r (uplinkMoves packets.length obey)).world.outflow =
        ⟨more, r.world.outflow.read ++ packets.map cut, r.world.outflow.sent ++ datagrams⟩ := by
  -- Two moves pass the first packet on, and leave the relay ready for the others.
  induction packets generalizing r with
  | nil =>
      refine ⟨[], .nil, ?_⟩
      change r.world.outflow.unread = more at queue
      change r.world.outflow = _
      rw [← queue]
      simp
  | cons p packets ih =>
      obtain ⟨d, encloses, ready', flow⟩ := uplink_passes (c := c) ready queue obey
      obtain ⟨datagrams, all, flow'⟩ := ih ready' (by rw [flow]; rfl)
      have split : uplinkMoves (packets.length + 1) obey =
          [.uplink obey, .uplink obey] ++ uplinkMoves packets.length obey := by
        simp [uplinkMoves, List.replicate_succ]
      refine ⟨d :: datagrams, .cons encloses all, ?_⟩
      rw [List.length_cons, split, run_append, flow', flow]
      simp

private theorem downlink_passes {whole : Datagram} {rest : List Datagram} {p : Packet}
    (ready : DownlinkReady r) (queue : r.world.inflow.queued = whole :: rest)
    (carries : Carries c.key (cut whole) p) (obey : Bool) :
    DownlinkReady (run c r [.downlink obey, .downlink obey]) ∧
      (run c r [.downlink obey, .downlink obey]).world.inflow =
        ⟨rest, r.world.inflow.received ++ [cut whole], r.world.inflow.writes ++ [(p, .ok ())],
          r.world.inflow.written ++ [p]⟩ := by
  obtain ⟨w, call, free, flow⟩ := ready.free.receive? queue
  obtain ⟨done, free'⟩ := free.writePacket p
  obtain ⟨device, hdevice, -⟩ := free.writes
  have flow' := (World.writePacket_spec p (w := w) (by rw [hdevice]; rfl)).1
  rw [done, flow] at flow'
  have received : r.move c (.downlink obey) =
      { r with downlink := .holding p, traffic := { r.traffic with world := w } } := by
    change r.traffic.world.receive? = _ at call
    simp [move, stepDownlink, downlinkStep, ready.waiting, ready.untold, downlinkInput, call,
      cancel, packetOf_of_carries carries]
  have written : ({ r with downlink := .holding p, traffic := { r.traffic with world := w } } :
      RelayRun).move c (.downlink obey) =
      { r with
        downlink := .waiting
        traffic := ⟨(w.writePacket p).2, r.traffic.stats.countDownlink p.length⟩ } := by
    have write : w.writePacket p = (.done, (w.writePacket p).2) := Prod.ext done rfl
    simp only [move, stepDownlink, downlinkStep, downlinkOutput, Option.map_some,
      Option.getD_some]
    rw [write]
  rw [run, List.foldl_cons, List.foldl_cons, List.foldl_nil, received, written]
  exact ⟨⟨rfl, ready.untold, free'⟩, flow'⟩

private theorem downlink_drains {datagrams later : List Datagram} {packets : List Packet}
    (ready : DownlinkReady r) (queue : r.world.inflow.queued = datagrams ++ later)
    (carry : List.Forall₂ (fun d p => Carries c.key (cut d) p) datagrams packets) (obey : Bool) :
    (run c r (downlinkMoves datagrams.length obey)).world.inflow =
      ⟨later, r.world.inflow.received ++ datagrams.map cut,
        r.world.inflow.writes ++ packets.map (·, .ok ()), r.world.inflow.written ++ packets⟩ := by
  induction carry generalizing r with
  | nil =>
      change r.world.inflow.queued = later at queue
      change r.world.inflow = _
      rw [← queue]
      simp
  | @cons d p datagrams packets carries _ ih =>
      obtain ⟨ready', flow⟩ := downlink_passes ready queue carries obey
      have flow' := ih ready' (by rw [flow]; rfl)
      have split : downlinkMoves (datagrams.length + 1) obey =
          [.downlink obey, .downlink obey] ++ downlinkMoves datagrams.length obey := by
        simp [downlinkMoves, List.replicate_succ]
      rw [List.length_cons, split, run_append, flow', flow]
      simp

def CarriedWhole (sender receiver : Setup) (r : RelayRun) (obey : Bool)
    (packets more : List Packet) : Prop :=
  ∃ datagrams : List Datagram,
    (run sender r (uplinkMoves packets.length obey)).world.outflow =
      ⟨more, r.world.outflow.read ++ packets, r.world.outflow.sent ++ datagrams⟩ ∧
    (∀ d ∈ datagrams, d.length ≤ Frame.maxDatagram ∧ cut d = d) ∧
    ∀ (s : RelayRun) (later : List Datagram), DownlinkReady s →
      s.world.inflow.queued = datagrams ++ later →
      (run receiver s (downlinkMoves packets.length obey)).world.inflow =
        ⟨later, s.world.inflow.received ++ datagrams,
          s.world.inflow.writes ++ packets.map (·, .ok ()), s.world.inflow.written ++ packets⟩

theorem length_le_of_encloses {key : PresharedKey} {datagrams : List Datagram}
    {packets : List Packet} (enclose : List.Forall₂ (Encloses key) datagrams packets)
    (short : ∀ p ∈ packets, p.length ≤ Config.maxMtu) :
    ∀ d ∈ datagrams, d.length ≤ Frame.maxDatagram := by
  have room : Config.maxMtu + Frame.headerLength + Seal.overhead = Frame.maxDatagram := by decide
  induction enclose with
  | nil => simp
  | @cons d p datagrams packets encloses _ ih =>
      obtain ⟨first, others⟩ := List.forall_mem_cons.mp short
      refine List.forall_mem_cons.mpr ⟨?_, ih others⟩
      rw [encloses.2]
      omega

private theorem carriedWhole_of_short {sender receiver : Setup} {packets more : List Packet}
    (same : receiver.key = sender.key) (ready : UplinkReady r)
    (queue : r.world.outflow.unread = packets ++ more)
    (short : ∀ p ∈ packets, p.length ≤ Config.maxMtu) (obey : Bool) :
    CarriedWhole sender receiver r obey packets more := by
  -- Neither the buffer of the uplink nor that of the downlink cuts anything.
  have largest : Config.maxMtu ≤ Frame.maxDatagram := by decide
  have unread : packets.map cut = packets :=
    map_cut_of_length_le fun p hp => Nat.le_trans (short p hp) largest
  obtain ⟨datagrams, enclose, sent⟩ := uplink_drains (c := sender) ready queue obey
  rw [unread] at enclose sent
  have fits := length_le_of_encloses enclose short
  have uncut : datagrams.map cut = datagrams := map_cut_of_length_le fits
  refine ⟨datagrams, sent, fun d hd => ⟨fits d hd, cut_of_length_le (fits d hd)⟩, ?_⟩
  intro s later ready' queue'
  have carry : List.Forall₂ (fun d p => Carries receiver.key (cut d) p) datagrams packets := by
    rw [← List.forall₂_map_left_iff (f := cut), uncut, same]
    exact enclose.imp fun _ _ h => h.1
  have count : packets.length = datagrams.length := enclose.length_eq.symm
  rw [count, downlink_drains ready' queue' carry obey, uncut]

end RelayRun

/-! ## Enough -/

namespace Config

/-- What a configuration is enough for, under a granted address: no device refuses its settings, and
relays of one key carry packets whole that are no longer than its MTU. -/
structure Sufficient (config : Config) (a : TunnelAddress) : Prop where
  settings : (config.deviceSettings.withAddress a.inner).validate = .ok ()
  created : ∀ (p : DeviceProvider) (field reason : String),
    (p.create (config.deviceSettings.withAddress a.inner)).1 ≠ .error (.invalidConfig field reason)
  carried : ∀ {sender receiver : Setup} {r : RelayRun} {packets more : List Packet},
    receiver.key = sender.key → r.UplinkReady → r.world.outflow.unread = packets ++ more →
    (∀ p ∈ packets, p.length ≤ config.tun.mtu.toNat) →
    ∀ obey, RelayRun.CarriedWhole sender receiver r obey packets more

/-- Being valid is enough, whatever address an Accept frame grants. -/
theorem sufficient_of_validate {config : Config} {f : Frame} {a : TunnelAddress}
    (valid : config.validate = .ok ()) (accepted : f.grantedAddress = .ok a) :
    config.Sufficient a := by
  have tun := tun_of_validate valid
  have usable := Frame.isUsable_of_grantedAddress accepted
  have settings := DeviceSettings.validate_withAddress tun usable
  refine ⟨settings, DeviceProvider.create_ne_invalidConfig settings, ?_⟩
  intro sender receiver r packets more same ready queue short obey
  obtain ⟨-, -, high⟩ := Interface.validate_eq_ok tun
  exact RelayRun.carriedWhole_of_short same ready queue
    (fun p hp => Nat.le_trans (short p hp) high) obey

theorem sufficient_largest :
    let config : Config :=
      { peer := { host := "203.0.113.5" }, crypto := { passphrase := some "burrow" },
        tun := { mtu := 1567 } }
    let whole : Packet := List.replicate 1567 0
    config.validate = .ok () ∧
      Frame.grantedAddress ⟨.accept, [10, 0, 0, 2]⟩ = .ok ⟨⟨0x0A000002⟩⟩ ∧
      config.Sufficient ⟨⟨0x0A000002⟩⟩ ∧
      ∃ s : RelayRun, s.DownlinkReady ∧ s.world.inflow.written = [] ∧
        (s.run Session.Trial.setup (RelayRun.downlinkMoves 1 false)).world.inflow.written =
          [whole] := by
  intro config whole
  have valid : config.validate = .ok () := by decide +kernel
  have accepted : Frame.grantedAddress ⟨.accept, [10, 0, 0, 2]⟩ = .ok ⟨⟨0x0A000002⟩⟩ := by decide
  have enough := sufficient_of_validate valid accepted
  have ready : (RelayRun.begun { settings := {}, inbound := [whole] }
      Session.Trial.world).UplinkReady :=
    ⟨rfl, rfl, rfl, rfl, rfl, _, rfl, rfl⟩
  have short : ∀ p ∈ [whole], p.length ≤ config.tun.mtu.toNat := by
    intro p hp
    rw [List.mem_singleton.mp hp, List.length_replicate]
    decide
  have carried : RelayRun.CarriedWhole Session.Trial.setup Session.Trial.setup _ false [whole] [] :=
    enough.carried rfl ready rfl short false
  obtain ⟨datagrams, -, -, received⟩ := carried
  let s := RelayRun.begun { settings := {} }
    { Session.Trial.world with socket := { inbound := datagrams } }
  have arrives := received s [] ⟨rfl, rfl, rfl, rfl, rfl, _, rfl, rfl⟩ (List.append_nil _).symm
  exact ⟨valid, accepted, enough, s, ⟨rfl, rfl, rfl, rfl, rfl, _, rfl, rfl⟩, rfl,
    congrArg Inflow.written arrives⟩

end Config

end TunnelClient
