import Mathlib.Algebra.GroupWithZero.Nat
import Mathlib.Data.List.Forall2
import TunnelClient.Proofs.Relay.Course
import TunnelClient.Proofs.Relay.Work

/-!
# The uplink

What an uplink sends.  The peer gets the packets injected into the device, in their order
and once each; all others still wait in the device, but for one whose sending failed.
-/

namespace TunnelClient

namespace Relay

/-- How far an uplink has come: its state, and the packets that it read.  It passed on all of these
but maybe the last. -/
inductive Forwarding (told : Bool) (events : List Event) (passed : List Packet) :
    Loop → List Packet → Prop
  | waiting : Forwarding told events passed .waiting passed
  | holding (p : Packet) : Forwarding told events passed (.holding p) (passed ++ [p])
  | hung (p : Packet) : Forwarding told events passed .stuck (passed ++ [p])
  | cancelled (obeyed : told = true) : Forwarding told events passed (.ended none) passed
  | lost {e : HostError} (failed : .readFailed e ∈ events) :
      Forwarding told events passed (.ended (some (.ofHost e))) passed
  | refused {e : HostError} (p : Packet) (failed : .sendFailed e ∈ events) :
      Forwarding told events passed (.ended (some (.ofHost e))) (passed ++ [p])

variable {key : PresharedKey} {told told' : Bool} {events events' : List Event}
  {passed : List Packet}
  {l l' : Loop} {o o' : Outflow} {s s' : RelayStats}

theorem Forwarding.mono {read : List Packet} (h : Forwarding told events passed l read)
    (htold : told = true → told' = true) (hevents : events ⊆ events') :
    Forwarding told' events' passed l read := by
  cases h with
  | waiting => exact .waiting
  | holding p => exact .holding p
  | hung p => exact .hung p
  | cancelled obeyed => exact .cancelled (htold obeyed)
  | lost failed => exact .lost (hevents failed)
  | refused p failed => exact .refused p (hevents failed)

theorem Forwarding.turn (h : Forwarding told events passed l o.read)
    (turn : UplinkTurn key told events' o o' s s' l l') :
    (Forwarding told events' passed l' o'.read ∧ o'.sent = o.sent ∧ s' = s) ∨
      ∃ p d, Carries key d p ∧ Forwarding told events' (passed ++ [p]) l' o'.read ∧
        o'.sent = o.sent ++ [d] ∧ s' = s.countUplink p.length := by
  generalize hread : o.read = read at h
  cases turn with
  | stop obeyed flow counts =>
      cases h with
      | waiting =>
          rw [flow, hread]
          exact .inl ⟨.cancelled obeyed, rfl, counts⟩
  | lose failed flow counts =>
      cases h with
      | waiting =>
          rw [flow, hread]
          exact .inl ⟨.lost failed, rfl, counts⟩
  | take queue flow counts =>
      cases h with
      | waiting =>
          rw [flow, hread]
          exact .inl ⟨.holding _, rfl, counts⟩
  | @send p d carries flow counts =>
      cases h with
      | holding =>
          rw [flow, hread]
          exact .inr ⟨p, d, carries, .waiting, rfl, counts⟩
  | fail failed flow counts =>
      cases h with
      | holding =>
          rw [flow, hread]
          exact .inl ⟨.refused _ failed, rfl, counts⟩
  | hang flow counts =>
      cases h with
      | holding =>
          rw [flow, hread]
          exact .inl ⟨.hung _, rfl, counts⟩

theorem UplinkTurn.conserved {come : List Packet}
    (turn : UplinkTurn key told events o o' s s' l l') (h : Conserved come o.unread o.read) :
    Conserved come o'.unread o'.read := by
  cases turn with
  | take queue flow =>
      rw [flow]
      exact h.take queue
  | stop _ flow | lose _ flow | send _ flow | fail _ flow | hang flow =>
      rw [flow]
      exact h

end Relay

namespace RelayRun

open Relay

def injected (d : Device) (moves : List Move) : List Packet :=
  d.inbound ++ moves.flatMap Move.packets

structure Passing (key : PresharedKey) (injected : List Packet) (r : RelayRun)
    (passed : List Packet) : Prop where
  conserved : Conserved injected r.world.outflow.unread r.world.outflow.read
  forwarding : Forwarding r.told r.world.events passed r.uplink r.world.outflow.read
  sent : List.Forall₂ (Carries key) r.world.outflow.sent passed
  packets : r.traffic.stats.uplinkPackets = UInt64.ofNat passed.length
  bytes : r.traffic.stats.uplinkBytes = UInt64.ofNat (passed.map List.length).sum

variable {c : Setup} {d : Device} {w : World} {r r' : RelayRun} {whole passed : List Packet}
  {m : Move}

private theorem passing_begun (key : PresharedKey) (d : Device) (w : World) :
    Passing key (injected d []) (begun d w) [] :=
  ⟨⟨[], (List.append_nil _).symm, rfl⟩, .waiting, .nil, rfl, rfl⟩

theorem passing_move (h : Passing c.key whole r passed) (step : MoveStep c r r' m) :
    ∃ passed', Passing c.key (whole ++ m.packets) r' passed' := by
  cases step with
  | idle datagrams packets same =>
      rw [same, packets, List.append_nil]
      exact ⟨passed, h⟩
  | @feel x inflow outflow counts uplink downlink told events =>
      refine ⟨passed, ⟨?_, ?_, ?_, ?_, ?_⟩⟩
      · rw [outflow]
        exact h.conserved.add x.packets
      · rw [outflow, uplink]
        exact h.forwarding.mono told events
      · rw [outflow]
        exact h.sent
      · rw [counts, h.packets]
      · rw [counts, h.bytes]
  | downlink turn outflow uplink told events =>
      obtain ⟨packets, bytes⟩ := turn.uplink_counts
      refine ⟨passed, ⟨?_, ?_, ?_, ?_, ?_⟩⟩
      · change Conserved (whole ++ []) _ _
        rw [outflow, List.append_nil]
        exact h.conserved
      · rw [outflow, uplink]
        exact h.forwarding.mono (by rw [told]; exact id) events
      · rw [outflow]
        exact h.sent
      · rw [packets, h.packets]
      · rw [bytes, h.bytes]
  | uplink turn inflow downlink told events =>
      have conserved : Conserved (whole ++ []) r'.world.outflow.unread r'.world.outflow.read := by
        rw [List.append_nil]
        exact turn.conserved h.conserved
      rcases h.forwarding.turn turn with
        ⟨forwarding, sent, counts⟩ | ⟨p, d, carries, forwarding, sent, counts⟩
      · refine ⟨passed, ⟨conserved, ?_, ?_, ?_, ?_⟩⟩
        · rw [told]
          exact forwarding
        · rw [sent]
          exact h.sent
        · rw [counts, h.packets]
        · rw [counts, h.bytes]
      · refine ⟨passed ++ [p], ⟨conserved, ?_, ?_, ?_, ?_⟩⟩
        · rw [told]
          exact forwarding
        · rw [sent]
          exact List.rel_append h.sent (.cons carries .nil)
        · rw [counts, RelayStats.countUplink, h.packets, List.length_append,
            List.length_singleton, UInt64.ofNat_add]
          rfl
        · rw [counts, RelayStats.countUplink, h.bytes, List.map_append, List.sum_append,
            UInt64.ofNat_add]
          simp

theorem passing_run (c : Setup) (d : Device) (w : World) (moves : List Move) :
    ∃ passed, Passing c.key (injected d moves) (run c (begun d w) moves) passed := by
  refine (run_induction (P := fun moves r => ∃ passed, Passing c.key (injected d moves) r passed)
    (fit_begun d w) ⟨[], passing_begun c.key d w⟩ ?_ moves).1
  intro moves m r r' step ih
  obtain ⟨passed, h⟩ := ih
  have more : injected d (moves ++ [m]) = injected d moves ++ m.packets := by
    simp [injected]
  rw [more]
  exact passing_move h step

/-- A packet that was read is being sent: its turn is next, or the call hangs, or it has failed and
ended the loop. -/
def Sending (p : Packet) (r : RelayRun) : Prop :=
  r.uplink = .holding p ∨ r.uplink = .stuck ∨
    ∃ e, .sendFailed e ∈ r.world.events ∧ r.uplink = .ended (some (.ofHost e))

/-- As many packets as datagrams were sent have gone out, in the order in which they were injected,
and the others still wait in the device but for at most one.  An uplink ends when it is told to or
when a call of its own has failed.  The loops take no more steps than there is work; an uplink that
has come to rest hangs, or has ended, or has sent all there is. -/
structure Forwarded (c : Setup) (injected : List Packet) (r : RelayRun) : Prop where
  sent : List.Forall₂ (Carries c.key) r.world.outflow.sent
    (injected.take r.world.outflow.sent.length)
  kept : injected.drop r.world.outflow.sent.length = r.world.outflow.unread ∨
    ∃ p, injected.drop r.world.outflow.sent.length = p :: r.world.outflow.unread ∧ Sending p r
  packets : r.traffic.stats.uplinkPackets = UInt64.ofNat r.world.outflow.sent.length
  bytes : r.traffic.stats.uplinkBytes =
    UInt64.ofNat ((injected.take r.world.outflow.sent.length).map List.length).sum
  ended : ∀ e, r.uplink = .ended e → e = none ∧ r.told = true ∨
    ∃ reason, e = some (.ofHost reason) ∧
      (.readFailed reason ∈ r.world.events ∨ .sendFailed reason ∈ r.world.events)
  bounded : ∀ n r', Path c r n r' → n ≤ r.work
  rest : ∀ obey, r.stepUplink c obey = none →
    r.uplink = .stuck ∨ (∃ e, r.uplink = .ended e) ∨
      r.told = false ∧ r.world.outflow.sent.length = injected.length

theorem Passing.cases (h : Passing c.key whole r passed)
    (read : r.world.outflow.read ++ r.world.outflow.unread = whole) :
    whole = passed ++ r.world.outflow.unread ∨
      ∃ p, whole = passed ++ p :: r.world.outflow.unread ∧ Sending p r := by
  have forwarding := h.forwarding
  generalize hl : r.uplink = l at forwarding
  generalize r.world.outflow.read = read' at forwarding read
  cases forwarding with
  | waiting | cancelled obeyed | lost failed => exact .inl read.symm
  | holding p =>
      exact .inr ⟨p, by rw [← read, List.append_assoc, List.singleton_append], .inl hl⟩
  | hung p =>
      exact .inr ⟨p, by rw [← read, List.append_assoc, List.singleton_append], .inr (.inl hl)⟩
  | refused p failed =>
      exact .inr ⟨p, by rw [← read, List.append_assoc, List.singleton_append],
        .inr (.inr ⟨_, failed, hl⟩)⟩

theorem Passing.ended (h : Passing c.key whole r passed) {e : Option ClientError}
    (ended : r.uplink = .ended e) : e = none ∧ r.told = true ∨
      ∃ reason, e = some (.ofHost reason) ∧
        (.readFailed reason ∈ r.world.events ∨ .sendFailed reason ∈ r.world.events) := by
  have forwarding := h.forwarding
  generalize r.world.outflow.read = read at forwarding
  rw [ended] at forwarding
  cases forwarding with
  | cancelled obeyed => exact .inl ⟨rfl, obeyed⟩
  | lost failed => exact .inr ⟨_, rfl, .inl failed⟩
  | refused p failed => exact .inr ⟨_, rfl, .inr failed⟩

theorem Passing.rest {obey : Bool} (h : Passing c.key whole r passed)
    (read : r.world.outflow.read ++ r.world.outflow.unread = whole)
    (rest : r.stepUplink c obey = none) :
    r.uplink = .stuck ∨ (∃ e, r.uplink = .ended e) ∨ r.told = false ∧ passed = whole := by
  rw [stepUplink, Option.map_eq_none_iff] at rest
  rcases uplink_rest rest with stuck | ended | ⟨waiting, untold, unread⟩
  · exact .inl stuck
  · exact .inr (.inl ended)
  · refine .inr (.inr ⟨untold, ?_⟩)
    change r.world.outflow.unread = [] at unread
    rcases h.cases read with whole | ⟨p, -, sending⟩
    · rw [whole, unread, List.append_nil]
    · rw [Sending, waiting] at sending
      simp at sending

/-- For any traffic, any failures and any moment of being told to stop, the datagrams that an uplink
sends carry the first packets injected, in order and once each, and no other packet is lost but one
whose sending failed. -/
theorem uplink_forwards {c : Setup} {d : Device} {w : World} {moves : List Move}
    (short : ∀ p ∈ injected d moves, p.length ≤ Frame.maxDatagram) :
    Forwarded c (injected d moves) (run c (begun d w) moves) := by
  obtain ⟨passed, h⟩ := passing_run c d w moves
  have read := h.conserved.eq_append short
  generalize run c (begun d w) moves = r at *
  have length : r.world.outflow.sent.length = passed.length := h.sent.length_eq
  have cases := h.cases read
  have first : (injected d moves).take passed.length = passed := by
    rcases cases with whole | ⟨p, whole, -⟩ <;> rw [whole, List.take_left]
  constructor
  · rw [length, first]
    exact h.sent
  · rw [length]
    rcases cases with whole | ⟨p, whole, sending⟩
    · exact .inl (by rw [whole, List.drop_left])
    · exact .inr ⟨p, by rw [whole, List.drop_left], sending⟩
  · rw [length]
    exact h.packets
  · rw [length, first]
    exact h.bytes
  · intro e
    exact h.ended
  · intro n r'
    exact Path.le_work
  · intro obey rest
    rcases h.rest read rest with stuck | ended | ⟨untold, all⟩
    · exact .inl stuck
    · exact .inr (.inl ended)
    · exact .inr (.inr ⟨untold, by rw [length, all]⟩)

theorem uplink_trial :
    (∀ p ∈ injected Trial.device Trial.moves, p.length ≤ Frame.maxDatagram) ∧
      Trial.relay.world.outflow.sent.length = 1 ∧
      Trial.relay.world.outflow.unread = [[9]] ∧
      Forwarded Session.Trial.setup (injected Trial.device Trial.moves) Trial.relay := by
  have short : ∀ p ∈ injected Trial.device Trial.moves, p.length ≤ Frame.maxDatagram := by
    decide
  have ended : Trial.relay.world.outflow.sent.length = 1 ∧
      Trial.relay.world.outflow.unread = [[9]] := by
    decide +kernel
  exact ⟨short, ended.1, ended.2, uplink_forwards short⟩

end RelayRun

end TunnelClient
