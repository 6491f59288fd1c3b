import TunnelClient.Proofs.Session.World
import TunnelClient.Session.Relay

/-!
# Inflow and outflow

What flows through a world.  Datagrams flow in from the peer to the device, and packets
flow out from the device to the peer.  Each call moves at most one item of one flow, and
each stimulus adds at most one.
-/

namespace TunnelClient

namespace Event

@[simp] def received? : Event → Option Datagram
  | received d => some d
  | _ => none

@[simp] def wrote? : Event → Option (Packet × Except HostError Unit)
  | wrote p outcome => some (p, outcome)
  | _ => none

@[simp] def read? : Event → Option Packet
  | read p => some p
  | _ => none

@[simp] def sent? : Event → Option Datagram
  | sent d => some d
  | _ => none

end Event

/-- From the peer, oldest first: the datagrams that wait in the socket, those received, the writes
to the device, and the packets written that are in it. -/
structure Inflow where
  queued : List Datagram
  received : List Datagram
  writes : List (Packet × Except HostError Unit)
  written : List Packet

def Inflow.afterWrite (p : Packet) (i : Inflow) : World.WriteResult → Inflow
  | .done => { i with writes := i.writes ++ [(p, .ok ())], written := i.written ++ [p] }
  | .failed e => { i with writes := i.writes ++ [(p, .error e)] }
  | .hangs => i

/-- To the peer, oldest first: the packets that wait in the device, those read, and the datagrams
sent. -/
structure Outflow where
  unread : List Packet
  read : List Packet
  sent : List Datagram

def cut (bytes : List UInt8) : List UInt8 := bytes.take Frame.maxDatagram

theorem cut_of_length_le {bytes : List UInt8} (h : bytes.length ≤ Frame.maxDatagram) :
    cut bytes = bytes :=
  List.take_of_length_le h

theorem map_cut_of_length_le {items : List (List UInt8)}
    (short : ∀ item ∈ items, item.length ≤ Frame.maxDatagram) : items.map cut = items :=
  (List.map_congr_left fun item hitem => cut_of_length_le (short item hitem)).trans
    (List.map_id _)

theorem length_cut_le (bytes : List UInt8) : (cut bytes).length ≤ Frame.maxDatagram :=
  List.length_take_le ..

def Conserved (come queued taken : List (List UInt8)) : Prop :=
  ∃ whole, whole ++ queued = come ∧ taken = whole.map cut

namespace Conserved

variable {come queued taken : List (List UInt8)}

theorem take {item : List UInt8} {rest : List (List UInt8)} (h : Conserved come queued taken)
    (queue : queued = item :: rest) : Conserved come rest (taken ++ [cut item]) := by
  obtain ⟨whole, together, rfl⟩ := h
  refine ⟨whole ++ [item], ?_, ?_⟩
  · rw [List.append_assoc, List.singleton_append, ← queue, together]
  · rw [List.map_append, List.map_singleton]

theorem add (h : Conserved come queued taken) (more : List (List UInt8)) :
    Conserved (come ++ more) (queued ++ more) taken := by
  obtain ⟨whole, together, cuts⟩ := h
  exact ⟨whole, by rw [← List.append_assoc, together], cuts⟩

theorem eq_append (h : Conserved come queued taken)
    (short : ∀ item ∈ come, item.length ≤ Frame.maxDatagram) : taken ++ queued = come := by
  obtain ⟨whole, together, cuts⟩ := h
  have uncut : whole.map cut = whole := map_cut_of_length_le fun item hitem =>
    short item (together ▸ List.mem_append_left _ hitem)
  rw [cuts, uncut, together]

end Conserved

namespace Stimulus

def datagrams : Stimulus → List Datagram
  | datagram d => [d]
  | _ => []

def packets : Stimulus → List Packet
  | packet p => [p]
  | _ => []

end Stimulus

theorem Socket.inbound_close (s : Socket) : s.close.2.inbound = s.inbound := by
  rw [close]
  split <;> rfl

namespace World

def inflow (w : World) : Inflow where
  queued := w.socket.inbound
  received := w.events.filterMap Event.received?
  writes := w.events.filterMap Event.wrote?
  written := w.device.elim [] Device.outbound

def outflow (w : World) : Outflow where
  unread := w.device.elim [] Device.inbound
  read := w.events.filterMap Event.read?
  sent := w.events.filterMap Event.sent?

/-! ## The socket -/

theorem receive?_spec (w : World) :
    match w.receive? with
    | none => w.inflow.queued = []
    | some (.error _, w') => w'.inflow = w.inflow ∧ w'.outflow = w.outflow
    | some (.ok d, w') => w'.outflow = w.outflow ∧
        ∃ whole rest, w.inflow.queued = whole :: rest ∧ d = cut whole ∧
          w'.inflow = { w.inflow with queued := rest, received := w.inflow.received ++ [d] } := by
  rw [receive?, Socket.poll?]
  cases ha : w.socket.active with
  | false => simp [inflow, outflow, record]
  | true =>
      cases hf : w.socket.receiveFailure with
      | some reason => simp [inflow, outflow, record]
      | none =>
          cases hq : w.socket.inbound with
          | nil => simp [inflow, hq]
          | cons whole rest => simp [inflow, outflow, record, cut, hq]

private theorem inbound_send (peer : Endpoint) (s : Socket) :
    (s.send peer).2.inbound = s.inbound := by
  simp only [Socket.send]
  repeat' split
  all_goals rfl

theorem send_spec (c : Setup) (d : Datagram) (w : World) :
    (w.send c d).2.inflow = w.inflow ∧
      (w.send c d).2.outflow =
        if (w.send c d).1 = .done then { w.outflow with sent := w.outflow.sent ++ [d] }
        else w.outflow := by
  have inbound := inbound_send c.peer w.socket
  rw [send]
  cases hs : w.socket.send c.peer with
  | mk result socket =>
      rw [hs] at inbound
      cases result <;> simp_all [inflow, outflow, record]

/-! ## The device -/

theorem readPacket?_spec (w : World) :
    match w.readPacket? with
    | none => w.outflow.unread = []
    | some (.error _, w') => w'.inflow = w.inflow ∧ w'.outflow = w.outflow
    | some (.ok p, w') => w'.inflow = w.inflow ∧
        ∃ whole rest, w.outflow.unread = whole :: rest ∧ p = cut whole ∧
          w'.outflow = { w.outflow with unread := rest, read := w.outflow.read ++ [p] } := by
  rw [readPacket?]
  cases hd : w.device with
  | none => simp [outflow, hd]
  | some device =>
      rw [Option.bind_some, Device.poll?]
      cases hf : device.readFailure with
      | some reason => simp [inflow, outflow, record, hd]
      | none =>
          cases hq : device.inbound with
          | nil => simp [outflow, hd, hq]
          | cons whole rest => simp [inflow, outflow, record, cut, hd, hq]

theorem writePacket_spec {w : World} (p : Packet) (opened : w.device.isSome = true) :
    (w.writePacket p).2.inflow = w.inflow.afterWrite p (w.writePacket p).1 ∧
      (w.writePacket p).2.outflow = w.outflow := by
  obtain ⟨device, hd⟩ := Option.isSome_iff_exists.mp opened
  rw [writePacket]
  split
  · simp [inflow, outflow, record, Inflow.afterWrite]
  · cases hf : device.writeFailure <;>
      simp [hd, Device.write, hf, inflow, outflow, record, Inflow.afterWrite]

/-! ## Stimuli -/

theorem flow_feel {w : World} (x : Stimulus) (opened : w.device.isSome = true) :
    (w.feel x).inflow = { w.inflow with queued := w.inflow.queued ++ x.datagrams } ∧
      (w.feel x).outflow = { w.outflow with unread := w.outflow.unread ++ x.packets } := by
  obtain ⟨device, hd⟩ := Option.isSome_iff_exists.mp opened
  cases x with
  | close =>
      simp [feel, closeSocket, inflow, outflow, record, Socket.inbound_close, Stimulus.datagrams,
        Stimulus.packets]
  | _ =>
      simp [feel, inflow, outflow, onSocket, onDevice, onRoutes, Socket.deliver, Device.inject,
        Device.armRead, Device.armWrite, Stimulus.datagrams, Stimulus.packets, hd]

end World

end TunnelClient
