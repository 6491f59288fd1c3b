import Mathlib.Algebra.GroupWithZero.Nat
import Mathlib.Data.List.Forall2
import TunnelClient.Proofs.Relay.Course
import TunnelClient.Proofs.Relay.Work

/-!
# The downlink

What a downlink delivers.  The device gets the packets of the datagrams received, in
their order and once each, up to the first datagram that carries none; that one ends the
loop with the error of the stage it failed at.
-/

namespace TunnelClient

namespace Relay

/-- The packets of the longest run of datagrams at the head of a list that all carry one. -/
def Authentic (key : PresharedKey) (ds : List Datagram) (packets : List Packet) : Prop :=
  ∃ good rest, ds = good ++ rest ∧ List.Forall₂ (Carries key) good packets ∧
    ∀ d ∈ rest.head?, ∃ e, Fails key d e

def succeeded (packets : List Packet) : List (Packet × Except HostError Unit) :=
  packets.map fun p => (p, .ok ())

/-- How far a downlink has come: its state, the datagrams that it received, and its writes.  The
device accepted the packets of all datagrams but maybe the last. -/
inductive Delivery (key : PresharedKey) (told : Bool) (events : List Event)
    (accepted : List Packet) :
    Loop → List Datagram → List (Packet × Except HostError Unit) → Prop
  | waiting {ds : List Datagram} (all : List.Forall₂ (Carries key) ds accepted) :
      Delivery key told events accepted .waiting ds (succeeded accepted)
  | holding {ds : List Datagram} {d : Datagram} {p : Packet}
      (all : List.Forall₂ (Carries key) ds accepted) (last : Carries key d p) :
      Delivery key told events accepted (.holding p) (ds ++ [d]) (succeeded accepted)
  | hung {ds : List Datagram} {d : Datagram} {p : Packet}
      (all : List.Forall₂ (Carries key) ds accepted) (last : Carries key d p) :
      Delivery key told events accepted .stuck (ds ++ [d]) (succeeded accepted)
  | cancelled {ds : List Datagram} (all : List.Forall₂ (Carries key) ds accepted)
      (obeyed : told = true) :
      Delivery key told events accepted (.ended none) ds (succeeded accepted)
  | lost {ds : List Datagram} {e : HostError} (all : List.Forall₂ (Carries key) ds accepted)
      (failed : .receiveFailed e ∈ events) :
      Delivery key told events accepted (.ended (some (.ofHost e))) ds (succeeded accepted)
  | rejected {ds : List Datagram} {d : Datagram} {e : WireError}
      (all : List.Forall₂ (Carries key) ds accepted) (fails : Fails key d e) :
      Delivery key told events accepted (.ended (some (.ofWire e))) (ds ++ [d])
        (succeeded accepted)
  | refused {ds : List Datagram} {d : Datagram} {p : Packet} {e : HostError}
      (all : List.Forall₂ (Carries key) ds accepted) (last : Carries key d p) :
      Delivery key told events accepted (.ended (some (.ofHost e))) (ds ++ [d])
        (succeeded accepted ++ [(p, .error e)])

variable {key : PresharedKey} {told told' : Bool} {events events' : List Event}
  {accepted : List Packet} {l l' : Loop} {ds : List Datagram}
  {writes : List (Packet × Except HostError Unit)} {i i' : Inflow} {s s' : RelayStats}

theorem Delivery.mono (h : Delivery key told events accepted l ds writes)
    (htold : told = true → told' = true) (hevents : events ⊆ events') :
    Delivery key told' events' accepted l ds writes := by
  cases h with
  | waiting all => exact .waiting all
  | holding all last => exact .holding all last
  | hung all last => exact .hung all last
  | cancelled all obeyed => exact .cancelled all (htold obeyed)
  | lost all failed => exact .lost all (hevents failed)
  | rejected all fails => exact .rejected all fails
  | refused all last => exact .refused all last

theorem Delivery.turn (h : Delivery key told events accepted l i.received i.writes)
    (turn : DownlinkTurn key told events' i i' s s' l l') :
    (Delivery key told events' accepted l' i'.received i'.writes ∧ i'.written = i.written ∧
        s' = s) ∨
      ∃ p, Delivery key told events' (accepted ++ [p]) l' i'.received i'.writes ∧
        i'.written = i.written ++ [p] ∧ s' = s.countDownlink p.length := by
  generalize hreceived : i.received = received at h
  generalize hwrites : i.writes = writes at h
  cases turn with
  | stop obeyed flow counts =>
      cases h with
      | waiting all =>
          rw [flow, hreceived, hwrites]
          exact .inl ⟨.cancelled all obeyed, rfl, counts⟩
  | lose failed flow counts =>
      cases h with
      | waiting all =>
          rw [flow, hreceived, hwrites]
          exact .inl ⟨.lost all failed, rfl, counts⟩
  | take queue carries flow counts =>
      cases h with
      | waiting all =>
          rw [flow, hreceived, hwrites]
          exact .inl ⟨.holding all carries, rfl, counts⟩
  | reject queue fails flow counts =>
      cases h with
      | waiting all =>
          rw [flow, hreceived, hwrites]
          exact .inl ⟨.rejected all fails, rfl, counts⟩
  | @write p flow counts =>
      cases h with
      | holding all last =>
          have written : succeeded accepted ++ [(p, .ok ())] = succeeded (accepted ++ [p]) := by
            simp [succeeded]
          rw [flow]
          refine .inr ⟨p, ?_, rfl, counts⟩
          simp only [Inflow.afterWrite, hreceived, hwrites, written]
          exact .waiting (List.rel_append all (.cons last .nil))
  | fail flow counts =>
      cases h with
      | holding all last =>
          rw [flow]
          refine .inl ⟨?_, rfl, counts⟩
          simp only [Inflow.afterWrite, hreceived, hwrites]
          exact .refused all last
  | hang flow counts =>
      cases h with
      | holding all last =>
          rw [flow, hreceived, hwrites]
          exact .inl ⟨.hung all last, rfl, counts⟩

theorem DownlinkTurn.conserved {come : List Datagram}
    (turn : DownlinkTurn key told events i i' s s' l l')
    (h : Conserved come i.queued i.received) : Conserved come i'.queued i'.received := by
  cases turn with
  | take queue _ flow | reject queue _ flow =>
      rw [flow]
      exact h.take queue
  | stop _ flow | lose _ flow | write flow | fail flow | hang flow =>
      rw [flow]
      exact h

end Relay

namespace RelayRun

open Relay

def arrived (w : World) (moves : List Move) : List Datagram :=
  w.socket.inbound ++ moves.flatMap Move.datagrams

structure Delivering (key : PresharedKey) (arrived : List Datagram) (before : List Packet)
    (r : RelayRun) (accepted : List Packet) : Prop where
  conserved : Conserved arrived r.world.inflow.queued r.world.inflow.received
  delivery : Delivery key r.told r.world.events accepted r.downlink r.world.inflow.received
    r.world.inflow.writes
  written : r.world.inflow.written = before ++ accepted
  packets : r.traffic.stats.downlinkPackets = UInt64.ofNat accepted.length
  bytes : r.traffic.stats.downlinkBytes = UInt64.ofNat (accepted.map List.length).sum

variable {c : Setup} {d : Device} {w : World} {r r' : RelayRun} {whole : List Datagram}
  {before accepted : List Packet} {m : Move}

private theorem delivering_begun (key : PresharedKey) (d : Device) (w : World) :
    Delivering key (arrived w []) d.outbound (begun d w) [] := by
  refine ⟨⟨[], ?_, rfl⟩, .waiting .nil, ?_, rfl, rfl⟩
  · exact (List.append_nil _).symm
  · exact (List.append_nil _).symm

theorem delivering_move (h : Delivering c.key whole before r accepted) (step : MoveStep c r r' m) :
    ∃ accepted', Delivering c.key (whole ++ m.datagrams) before r' accepted' := by
  cases step with
  | idle datagrams packets same =>
      rw [same, datagrams, List.append_nil]
      exact ⟨accepted, h⟩
  | @feel x inflow outflow counts uplink downlink told events =>
      refine ⟨accepted, ⟨?_, ?_, ?_, ?_, ?_⟩⟩
      · rw [inflow]
        exact h.conserved.add x.datagrams
      · rw [inflow, downlink]
        exact h.delivery.mono told events
      · rw [inflow, h.written]
      · rw [counts, h.packets]
      · rw [counts, h.bytes]
  | uplink turn inflow downlink told events =>
      obtain ⟨packets, bytes⟩ := turn.downlink_counts
      refine ⟨accepted, ⟨?_, ?_, ?_, ?_, ?_⟩⟩
      · change Conserved (whole ++ []) _ _
        rw [inflow, List.append_nil]
        exact h.conserved
      · rw [inflow, downlink]
        exact h.delivery.mono (by rw [told]; exact id) events
      · rw [inflow, h.written]
      · rw [packets, h.packets]
      · rw [bytes, h.bytes]
  | downlink turn outflow uplink told events =>
      have conserved : Conserved (whole ++ []) r'.world.inflow.queued r'.world.inflow.received := by
        rw [List.append_nil]
        exact turn.conserved h.conserved
      rcases h.delivery.turn turn with
        ⟨delivery, written, counts⟩ | ⟨p, delivery, written, counts⟩
      · refine ⟨accepted, ⟨conserved, ?_, ?_, ?_, ?_⟩⟩
        · rw [told]
          exact delivery
        · rw [written, h.written]
        · rw [counts, h.packets]
        · rw [counts, h.bytes]
      · refine ⟨accepted ++ [p], ⟨conserved, ?_, ?_, ?_, ?_⟩⟩
        · rw [told]
          exact delivery
        · rw [written, h.written, List.append_assoc]
        · rw [counts, RelayStats.countDownlink, h.packets, List.length_append,
            List.length_singleton, UInt64.ofNat_add]
          rfl
        · rw [counts, RelayStats.countDownlink, h.bytes, List.map_append, List.sum_append,
            UInt64.ofNat_add]
          simp

theorem delivering_run (c : Setup) (d : Device) (w : World) (moves : List Move) :
    ∃ accepted,
      Delivering c.key (arrived w moves) d.outbound (run c (begun d w) moves) accepted := by
  refine (run_induction (P := fun moves r => ∃ accepted,
    Delivering c.key (arrived w moves) d.outbound r accepted) (fit_begun d w)
    ⟨[], delivering_begun c.key d w⟩ ?_ moves).1
  intro moves m r r' step ih
  obtain ⟨accepted, h⟩ := ih
  have more : arrived w (moves ++ [m]) = arrived w moves ++ m.datagrams := by
    simp [arrived]
  rw [more]
  exact delivering_move h step

/-- A downlink was kept from delivering more: it hangs in a write, was told to stop, or met an error
of the socket or of the device. -/
def CutShort (l : Loop) : Prop :=
  l = .stuck ∨ l = .ended none ∨ ∃ e, l = .ended (some (.ofHost e))

/-- The delivery of what has arrived, of which no datagram is longer than the buffer.  The loops
take no more steps than there is work.  Once the downlink has come to rest nothing that could be
delivered is missing, unless it was cut short; one that was told to stop does not wait on. -/
structure Delivered (c : Setup) (arrived : List Datagram) (before : List Packet) (r : RelayRun)
    (accepted : List Packet) : Prop where
  received : r.world.inflow.received ++ r.world.inflow.queued = arrived
  delivery : Delivery c.key r.told r.world.events accepted r.downlink r.world.inflow.received
    r.world.inflow.writes
  written : r.world.inflow.written = before ++ accepted
  packets : r.traffic.stats.downlinkPackets = UInt64.ofNat accepted.length
  bytes : r.traffic.stats.downlinkBytes = UInt64.ofNat (accepted.map List.length).sum
  bounded : ∀ n r', Path c r n r' → n ≤ r.work
  rest : ∀ obey, r.stepDownlink c obey = none → CutShort r.downlink ∨
    (r.downlink = .waiting → r.told = false) ∧ Authentic c.key arrived accepted

theorem authentic_of_rest {obey : Bool} (h : Delivering c.key whole before r accepted)
    (received : r.world.inflow.received ++ r.world.inflow.queued = whole)
    (rest : r.stepDownlink c obey = none) : CutShort r.downlink ∨
      (r.downlink = .waiting → r.told = false) ∧ Authentic c.key whole accepted := by
  have delivery := h.delivery
  generalize r.world.inflow.received = ds at delivery received
  generalize r.world.inflow.writes = writes at delivery
  rw [stepDownlink, Option.map_eq_none_iff] at rest
  rcases downlink_rest rest with stuck | ⟨e, ended⟩ | ⟨waiting, untold, queued⟩
  · exact .inl (.inl stuck)
  · rw [ended] at delivery ⊢
    cases delivery with
    | cancelled all obeyed => exact .inl (.inr (.inl rfl))
    | lost all failed => exact .inl (.inr (.inr ⟨_, rfl⟩))
    | refused all last => exact .inl (.inr (.inr ⟨_, rfl⟩))
    | @rejected good d e all fails =>
        refine .inr ⟨Loop.noConfusion, good, d :: r.world.inflow.queued, ?_, all, ?_⟩
        · rw [← received, List.append_assoc, List.singleton_append]
        · rintro _ ⟨⟩
          exact ⟨e, fails⟩
  · rw [waiting] at delivery
    cases delivery with
    | waiting all =>
        change r.world.inflow.queued = [] at queued
        refine .inr ⟨fun _ => untold, ds, [], ?_, all, by simp⟩
        rw [← received, queued]

/-- For any traffic, any failures and any moment of being told to stop, a downlink hands to the
device the packets of the datagrams that it received, in order and once each, up to the first that
does not open, does not decode or is no Data frame. -/
theorem downlink_delivers {c : Setup} {d : Device} {w : World} {moves : List Move}
    (short : ∀ x ∈ arrived w moves, x.length ≤ Frame.maxDatagram) :
    ∃ accepted, Delivered c (arrived w moves) d.outbound (run c (begun d w) moves) accepted := by
  obtain ⟨accepted, h⟩ := delivering_run c d w moves
  have received := h.conserved.eq_append short
  exact ⟨accepted, received, h.delivery, h.written, h.packets, h.bytes,
    fun _ _ => Path.le_work, fun _ => authentic_of_rest h received⟩

theorem downlink_trial :
    (∀ x ∈ arrived Session.Trial.world Trial.moves, x.length ≤ Frame.maxDatagram) ∧
      Trial.relay.downlink = .ended (some (.ofWire .decryption)) ∧
      ∃ accepted, Delivered Session.Trial.setup (arrived Session.Trial.world Trial.moves)
        Trial.device.outbound Trial.relay accepted := by
  have short : ∀ x ∈ arrived Session.Trial.world Trial.moves, x.length ≤ Frame.maxDatagram := by
    decide
  exact ⟨short, by decide +kernel, downlink_delivers short⟩

end RelayRun

end TunnelClient
