import Mathlib.Algebra.GroupWithZero.Nat
import TunnelClient.Proofs.Relay.Capacity
import TunnelClient.Proofs.Relay.Uplink
import TunnelClient.Proofs.Wire.Codec
import TunnelClient.Proofs.Wire.Opening

/-!
# Oversized packets

Packets that are too long for one datagram.  A device accepts settings whose MTU exceeds what a
relay can carry: a packet of such a device goes out in a datagram that the peer cuts, and one longer
than the buffer of the uplink is cut before it goes out, and counted as what is left of it.
-/

namespace TunnelClient

namespace Relay

variable {key : PresharedKey} {d : Datagram} {p : Packet}

theorem length_of_carries (carries : Carries key d p) :
    d.length = p.length + Frame.headerLength + Seal.overhead := by
  obtain ⟨text, opened, decoded⟩ := carries
  rw [Seal.length_of_unwrap opened, Frame.decode_eq_ok_iff.mp decoded, Frame.length_encode]
  rfl

def Intact (key : PresharedKey) (d : Datagram) (p : Packet) : Prop :=
  Carries key d p ∧ d.length ≤ Frame.maxDatagram

theorem intact_iff (carries : Carries key d (cut p)) :
    Intact key d p ↔ p.length ≤ Config.maxMtu := by
  have room : Config.maxMtu + Frame.headerLength + Seal.overhead = Frame.maxDatagram := by decide
  have length := length_of_carries carries
  constructor
  · rintro ⟨whole, fits⟩
    have own := length_of_carries whole
    omega
  · intro short
    have uncut : cut p = p := cut_of_length_le (by omega)
    rw [uncut] at carries length
    exact ⟨carries, by omega⟩

private theorem intact_of_short {datagrams : List Datagram} {packets : List Packet}
    (carry : List.Forall₂ (Carries key) datagrams (packets.map cut))
    (short : ∀ p ∈ packets, p.length ≤ Config.maxMtu) :
    List.Forall₂ (Intact key) datagrams packets := by
  rw [List.forall₂_map_right_iff] at carry
  induction carry with
  | nil => exact .nil
  | cons carries _ ih =>
      obtain ⟨first, others⟩ := List.forall_mem_cons.mp short
      exact .cons ((intact_iff carries).mpr first) (ih others)

theorem Forwarding.front {told : Bool} {events : List Event} {passed read : List Packet} {l : Loop}
    (h : Forwarding told events passed l read) :
    passed <+: read ∧ (l = .waiting → read = passed) := by
  cases h with
  | waiting | cancelled obeyed | lost failed => exact ⟨List.prefix_refl _, fun _ => rfl⟩
  | holding p | hung p | refused p failed =>
      exact ⟨List.prefix_append .., fun waiting => nomatch waiting⟩

end Relay

namespace RelayRun

open Relay

/-- An uplink that sends one datagram for each packet, in order, each of a kind, and counts these
packets.  One that has come to rest hangs, or has ended with an error or as it was told to, or has
sent them all. -/
structure Sends (Kind : Datagram → Packet → Prop) (packets : List Packet) (c : Setup)
    (r : RelayRun) : Prop where
  sent : List.Forall₂ Kind r.world.outflow.sent (packets.take r.world.outflow.sent.length)
  count : r.traffic.stats.uplinkPackets = UInt64.ofNat r.world.outflow.sent.length
  bytes : r.traffic.stats.uplinkBytes =
    UInt64.ofNat ((packets.take r.world.outflow.sent.length).map List.length).sum
  rest : ∀ obey, r.stepUplink c obey = none →
    r.uplink = .stuck ∨ (∃ e, r.uplink = .ended (some e)) ∨
      (r.uplink = .ended none ∧ r.told = true) ∨ r.world.outflow.sent.length = packets.length

/-- An uplink does not end by itself without an error. -/
theorem told_of_cancelled (c : Setup) (d : Device) (w : World) (moves : List Move) :
    (run c (begun d w) moves).uplink = .ended none → (run c (begun d w) moves).told = true := by
  refine (run_induction (P := fun _ r => r.uplink = .ended none → r.told = true)
    (fit_begun d w) nofun ?_ moves).1
  intro _ m r r' step ih
  cases step with
  | idle _ _ same =>
      rw [same]
      exact ih
  | feel _ _ _ uplink _ told =>
      rw [uplink]
      exact fun ended => told (ih ended)
  | downlink _ _ uplink told =>
      rw [uplink, told]
      exact ih
  | uplink turn _ _ told =>
      rw [told]
      generalize r.uplink = l at turn
      generalize r'.uplink = l' at turn ⊢
      cases turn with
      | stop obeyed => exact fun _ => obeyed
      | lose | take | send | fail | hang => exact nofun

private theorem sends_cut (c : Setup) (d : Device) (w : World) (moves : List Move) :
    Sends (Carries c.key) ((injected d moves).map cut) c (run c (begun d w) moves) := by
  obtain ⟨passed, h⟩ := passing_run c d w moves
  obtain ⟨whole, split, cuts⟩ := h.conserved
  obtain ⟨before, waiting⟩ := h.forwarding.front
  have told := told_of_cancelled c d w moves
  generalize run c (begun d w) moves = r at *
  have length : r.world.outflow.sent.length = passed.length := h.sent.length_eq
  have first : ((injected d moves).map cut).take passed.length = passed := by
    rw [← split, List.map_append, ← cuts]
    obtain ⟨more, read⟩ := before
    rw [← read, List.append_assoc, List.take_left]
  constructor
  · rw [length, first]
    exact h.sent
  · rw [length]
    exact h.packets
  · rw [length, first]
    exact h.bytes
  · intro obey rest
    rw [stepUplink, Option.map_eq_none_iff] at rest
    rcases uplink_rest rest with stuck | ⟨_ | e, ended⟩ | ⟨idle, -, unread⟩
    · exact .inl stuck
    · exact .inr (.inr (.inl ⟨ended, told ended⟩))
    · exact .inr (.inl ⟨e, ended⟩)
    · change r.world.outflow.unread = [] at unread
      rw [unread, List.append_nil] at split
      exact .inr (.inr (.inr (by rw [length, ← split, ← cuts, waiting idle])))

/-- Whatever happens to the relay, packets that are no longer than the MTU of a device opened with
these settings go out intact. -/
def KeepsIntact (s : DeviceSettings) : Prop :=
  ∀ (provider provider' : DeviceProvider) (d : Device), provider.create s = (.ok d, provider') →
    ∀ (c : Setup) (w : World) (moves : List Move),
      (∀ p ∈ injected d moves, p.length ≤ s.mtu.toNat) →
        Sends (Intact c.key) (injected d moves) c (run c (begun d w) moves)

variable {s : DeviceSettings} {c : Setup} {w : World} {p : Packet}

theorem keepsIntact_of_le (le : s.mtu.toNat ≤ Config.maxMtu) : KeepsIntact s := by
  intro _ _ d _ c w moves short
  have room : Config.maxMtu ≤ Frame.maxDatagram := by decide
  have small : ∀ p ∈ injected d moves, p.length ≤ Config.maxMtu := fun p mem =>
    Nat.le_trans (short p mem) le
  have uncut : (injected d moves).map cut = injected d moves :=
    map_cut_of_length_le fun p mem => Nat.le_trans (small p mem) room
  obtain ⟨sent, count, bytes, rest⟩ := sends_cut c d w moves
  rw [← List.map_take] at sent
  refine ⟨intact_of_short sent fun p mem => small p (List.mem_of_mem_take mem), count, ?_, ?_⟩
  · rwa [uncut] at bytes
  · rwa [uncut] at rest

namespace Trial

def passOne (s : DeviceSettings) (p : Packet) : RelayRun :=
  run Session.Trial.setup (begun { settings := s } Session.Trial.world)
    (.stimulus (.packet p) :: uplinkMoves 1 false)

private theorem sent_passOne (s : DeviceSettings) (p : Packet) :
    ∃ x, Carries Session.Trial.key x (cut p) ∧ (passOne s p).world.outflow.sent = [x] := by
  let r := (begun { settings := s } Session.Trial.world).move Session.Trial.setup
    (.stimulus (.packet p))
  have ready : UplinkReady r := ⟨rfl, rfl, rfl, rfl, rfl, _, rfl, rfl⟩
  have queue : r.world.outflow.unread = [p] ++ [] := rfl
  obtain ⟨datagrams, enclose, flow⟩ :=
    uplink_drains (c := Session.Trial.setup) ready queue false
  cases enclose with
  | cons encloses others =>
      cases others
      exact ⟨_, encloses.1, congrArg Outflow.sent flow⟩

end Trial

private theorem not_sends_intact (s : DeviceSettings) (long : Config.maxMtu < p.length) :
    ¬Sends (Intact Session.Trial.key) [p] Session.Trial.setup (Trial.passOne s p) := by
  intro sends
  obtain ⟨x, carries, sent⟩ := Trial.sent_passOne s p
  have intact := sends.sent
  rw [sent] at intact
  cases intact with
  | cons intact _ =>
      have short := (intact_iff carries).mp intact
      omega

theorem le_of_keepsIntact (valid : s.validate = .ok ()) (keeps : KeepsIntact s) :
    s.mtu.toNat ≤ Config.maxMtu := by
  -- A packet as long as the MTU would not be intact.
  have created : ({} : DeviceProvider).create s = (.ok { settings := s }, {}) := by
    rw [DeviceProvider.create, valid]
  have within : ∀ p ∈ [List.replicate s.mtu.toNat (0 : UInt8)], p.length ≤ s.mtu.toNat := by
    intro p mem
    rw [List.mem_singleton.mp mem]
    exact Nat.le_of_eq List.length_replicate
  have sends := keeps {} {} _ created Session.Trial.setup Session.Trial.world
    (.stimulus (.packet (List.replicate s.mtu.toNat 0)) :: uplinkMoves 1 false) within
  refine Nat.le_of_not_lt fun large => not_sends_intact s ?_ sends
  rwa [List.length_replicate]

/-- What device settings are good for.  Whatever packets come, what the uplink's buffer holds of
each goes out, in a datagram that carries just this; that is the packet, in a datagram that no peer
cuts, if and only if it is no longer than the largest MTU of a configuration; so settings that a
device accepts keep all packets of their MTU intact if and only if their MTU is no larger than that.
-/
theorem intact_up_to_configured_mtu {s : DeviceSettings} (valid : s.validate = .ok ()) :
    (∀ (c : Setup) (d : Device) (w : World) (moves : List Move),
        Sends (Carries c.key) ((injected d moves).map cut) c (run c (begun d w) moves)) ∧
      (∀ (key : PresharedKey) (x : Datagram) (p : Packet), Carries key x (cut p) →
        (Intact key x p ↔ p.length ≤ Config.maxMtu)) ∧
      (KeepsIntact s ↔ s.mtu.toNat ≤ Config.maxMtu) :=
  ⟨sends_cut, fun _ _ _ => intact_iff, le_of_keepsIntact valid, keepsIntact_of_le⟩

theorem default_settings_intact :
    ({ address := ⟨0x0A000002⟩ } : DeviceSettings).validate = .ok () ∧
      KeepsIntact { address := ⟨0x0A000002⟩ } := by
  have valid : ({ address := ⟨0x0A000002⟩ } : DeviceSettings).validate = .ok () := by decide +kernel
  exact ⟨valid, (intact_up_to_configured_mtu valid).2.2.mpr (by decide)⟩

def jumbo : DeviceSettings := { address := ⟨0x0A000002⟩, mtu := 9000 }

/-- A packet of 1700 bytes goes out without its last 100, and is counted as what is left. -/
theorem jumbo_cut :
    jumbo.validate = .ok () ∧ ¬KeepsIntact jumbo ∧
      ∃ x, (Trial.passOne jumbo (List.replicate 1700 0x45)).world.outflow.sent = [x] ∧
        x.length = 1633 ∧ Carries Session.Trial.key x (List.replicate 1600 0x45) ∧
        (Trial.passOne jumbo (List.replicate 1700 0x45)).traffic.stats.uplinkPackets = 1 ∧
        (Trial.passOne jumbo (List.replicate 1700 0x45)).traffic.stats.uplinkBytes = 1600 := by
  have valid : jumbo.validate = .ok () := by decide +kernel
  have large : Config.maxMtu < jumbo.mtu.toNat := by decide
  have left : cut (List.replicate 1700 0x45) = List.replicate 1600 0x45 := List.take_replicate ..
  obtain ⟨x, carries, sent⟩ := Trial.sent_passOne jumbo (List.replicate 1700 0x45)
  have counted := sends_cut Session.Trial.setup { settings := jumbo } Session.Trial.world
    (.stimulus (.packet (List.replicate 1700 0x45)) :: uplinkMoves 1 false)
  change Sends _ ([List.replicate 1700 0x45].map cut) _ (Trial.passOne jumbo _) at counted
  obtain ⟨-, count, bytes, -⟩ := counted
  rw [sent] at count bytes
  rw [left] at carries
  refine ⟨valid, fun keeps => ?_, x, sent, ?_, carries, count, ?_⟩
  · have := le_of_keepsIntact valid keeps
    omega
  · rw [length_of_carries carries, List.length_replicate]
    decide
  · rw [bytes, List.map_singleton, left, List.length_singleton, List.take_succ_cons, List.take_zero,
      List.map_singleton, List.length_replicate]
    rfl

end RelayRun

end TunnelClient
