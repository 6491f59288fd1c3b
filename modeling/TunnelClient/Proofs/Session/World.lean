import TunnelClient.Session.Stimulus

/-!
# What calls leave alone

What the calls of a client leave alone.  Traffic on the socket and the device moves
packets and is logged; it touches neither the routes nor the state of the link.
-/

namespace TunnelClient

/-! ## Kinds of events -/

namespace Event

def isTraffic : Event → Bool
  | sent _ | sendFailed _ | sendHung | received _ | receiveFailed _ | read _ | readFailed _
  | wrote _ _ | writeHung => true
  | _ => false

def isHostWork : Event → Bool
  | created _ _ | raised _ | lowered _ | route _ => true
  | _ => false

def isMilestone : Event → Bool
  | entered _ | broadcast | abandoned _ => true
  | e => e.isHostWork

def report? : Event → Option Cause
  | reported cause => some cause
  | _ => none

def isClosing : Event → Bool
  | closed _ => true
  | _ => false

def entered? : Event → Option Phase
  | entered phase => some phase
  | _ => none

def routeCall? : Event → Option RouteCall
  | route (.read _ _) => some .read
  | route (.change _ c _) => some (.change c)
  | _ => none

theorem isMilestone_of_isTraffic {e : Event} (h : e.isTraffic = true) :
    e.isMilestone = false := by
  cases e <;> simp_all [isTraffic, isMilestone, isHostWork]

theorem isMilestone_of_isHostWork {e : Event} (h : e.isHostWork = true) :
    e.isMilestone = true := by
  cases e <;> simp_all [isMilestone, isHostWork]

theorem isHostWork_of_not_isMilestone {e : Event} (h : e.isMilestone = false) :
    e.isHostWork = false := by
  cases hw : e.isHostWork with
  | false => rfl
  | true =>
      rw [isMilestone_of_isHostWork hw] at h
      cases h

theorem isHostWork_of_isTraffic {e : Event} (h : e.isTraffic = true) : e.isHostWork = false :=
  isHostWork_of_not_isMilestone (isMilestone_of_isTraffic h)

theorem idle_of_milestones {es : List Event}
    (h : ∀ e ∈ es.filter isMilestone, e.isHostWork = false) : ∀ e ∈ es, e.isHostWork = false := by
  intro e he
  cases hm : e.isMilestone with
  | false => exact isHostWork_of_not_isMilestone hm
  | true => exact h e (List.mem_filter.mpr ⟨he, hm⟩)

theorem plain_of_calls {es : List Event}
    (calls : ∀ e ∈ es, e.isTraffic = true ∨ e.isHostWork = true) :
    es.filterMap report? = [] ∧ es.countP isClosing = 0 := by
  rw [List.filterMap_eq_nil_iff, List.countP_eq_zero]
  constructor
  · intro e he
    have := calls e he
    cases e <;> simp_all [isTraffic, isHostWork, report?]
  · intro e he
    have := calls e he
    cases e <;> simp_all [isTraffic, isHostWork, isClosing]

end Event

/-! ## Devices and sockets -/

namespace Device

/-- What traffic does not change. -/
def standing (d : Device) : DeviceSettings × Bool × Nat := (d.settings, d.up, d.downCalls)

private theorem standing_poll? {d d' : Device} {capacity : Nat} {outcome : Except HostError Packet}
    (h : d.poll? capacity = some (outcome, d')) : d'.standing = d.standing := by
  rw [poll?] at h
  split at h
  · cases h
    rfl
  · split at h
    · cases h
    · cases h
      rfl

private theorem standing_write (p : Packet) (d : Device) : (d.write p).2.standing = d.standing := by
  rw [write]
  split <;> rfl

end Device

namespace Socket

private theorem active_poll? {s s' : Socket} {outcome : Except HostError Datagram}
    (h : s.poll? = some (outcome, s')) : s'.active = s.active := by
  rw [poll?] at h
  split at h
  · cases h
    rfl
  · split at h
    · cases h
      rfl
    · split at h
      · cases h
      · cases h
        rfl

private theorem active_send (peer : Endpoint) (s : Socket) : (s.send peer).2.active = s.active := by
  simp only [send]
  split
  · rfl
  · split
    · rfl
    · split
      · rfl
      · split <;> rfl

theorem active_close (s : Socket) : s.close.2.active = false := by
  rw [close]
  split <;> rfl

end Socket

namespace World

/-! ## Traffic -/

/-- Nothing but traffic has passed between two worlds. -/
structure Relayed (w w' : World) : Prop where
  routes : w'.routes = w.routes
  provider : w'.provider = w.provider
  device : w'.device.map Device.standing = w.device.map Device.standing
  active : w'.socket.active = w.socket.active
  events : ∃ es, w'.events = w.events ++ es ∧ ∀ e ∈ es, e.isTraffic = true

namespace Relayed

theorem refl (w : World) : Relayed w w :=
  ⟨rfl, rfl, rfl, rfl, [], by simp, by simp⟩

theorem trans {w w' w'' : World} (h : Relayed w w') (h' : Relayed w' w'') :
    Relayed w w'' := by
  obtain ⟨es, hes, traffic⟩ := h.events
  obtain ⟨es', hes', traffic'⟩ := h'.events
  refine ⟨h'.routes.trans h.routes, h'.provider.trans h.provider,
    h'.device.trans h.device, h'.active.trans h.active, es ++ es', ?_, ?_⟩
  · rw [hes', hes, List.append_assoc]
  · intro e he
    rcases List.mem_append.mp he with he | he
    · exact traffic e he
    · exact traffic' e he

end Relayed

theorem relayed_sealFrame (c : Setup) (f : Frame) (w : World) :
    Relayed w (w.sealFrame c f).2 :=
  ⟨rfl, rfl, rfl, rfl, [], by simp [sealFrame], by simp⟩

def sending (d : Datagram) : Socket.SendResult → Event
  | .done => .sent d
  | .failed e => .sendFailed e
  | .hangs => .sendHung

theorem relayed_send (c : Setup) (d : Datagram) (w : World) :
    Relayed w (w.send c d).2 ∧
      (w.send c d).2.events = w.events ++ [sending d (w.send c d).1] := by
  have active := Socket.active_send c.peer w.socket
  rw [send]
  cases hs : w.socket.send c.peer with
  | mk result socket =>
      rw [hs] at active
      cases result with
      | done => exact ⟨⟨rfl, rfl, rfl, active, [.sent d], rfl, by simp [Event.isTraffic]⟩, rfl⟩
      | failed e =>
          exact ⟨⟨rfl, rfl, rfl, active, [.sendFailed e], rfl, by simp [Event.isTraffic]⟩, rfl⟩
      | hangs => exact ⟨⟨rfl, rfl, rfl, active, [.sendHung], rfl, by simp [Event.isTraffic]⟩, rfl⟩

def receipt : Except HostError Datagram → Event
  | .ok d => .received d
  | .error e => .receiveFailed e

theorem relayed_receive? {w w' : World} {outcome : Except HostError Datagram}
    (h : w.receive? = some (outcome, w')) :
    Relayed w w' ∧ w'.events = w.events ++ [receipt outcome] := by
  rw [receive?] at h
  cases hp : w.socket.poll? with
  | none => simp [hp] at h
  | some polled =>
      obtain ⟨result, socket⟩ := polled
      have active := Socket.active_poll? hp
      rw [hp] at h
      cases result with
      | ok d =>
          cases h
          exact ⟨⟨rfl, rfl, rfl, active, [.received d], rfl, by simp [Event.isTraffic]⟩, rfl⟩
      | error e =>
          cases h
          exact ⟨⟨rfl, rfl, rfl, active, [.receiveFailed e], rfl, by simp [Event.isTraffic]⟩, rfl⟩

def reading : Except HostError Packet → Event
  | .ok p => .read p
  | .error e => .readFailed e

theorem relayed_readPacket? {w w' : World} {outcome : Except HostError Packet}
    (h : w.readPacket? = some (outcome, w')) :
    Relayed w w' ∧ w'.events = w.events ++ [reading outcome] := by
  rw [readPacket?] at h
  cases hd : w.device with
  | none => simp [hd] at h
  | some device =>
      rw [hd, Option.bind_some] at h
      cases hp : device.poll? Frame.maxDatagram with
      | none => simp [hp] at h
      | some polled =>
          obtain ⟨result, device'⟩ := polled
          have standing : (some device').map Device.standing = w.device.map Device.standing := by
            rw [hd, Option.map_some, Option.map_some, Device.standing_poll? hp]
          rw [hp] at h
          cases result with
          | ok p =>
              cases h
              exact ⟨⟨rfl, rfl, standing, rfl, [.read p], rfl, by simp [Event.isTraffic]⟩, rfl⟩
          | error e =>
              cases h
              exact ⟨⟨rfl, rfl, standing, rfl, [.readFailed e], rfl, by simp [Event.isTraffic]⟩,
                rfl⟩

theorem relayed_writePacket (p : Packet) (w : World) : Relayed w (w.writePacket p).2 := by
  rw [writePacket]
  split
  · exact ⟨rfl, rfl, rfl, rfl, [.writeHung], rfl, by simp [Event.isTraffic]⟩
  · cases hd : w.device with
    | none => exact Relayed.refl w
    | some device =>
        have standing := Device.standing_write p device
        cases hw : device.write p with
        | mk result device' =>
            rw [hw] at standing
            have moved : (some device').map Device.standing = w.device.map Device.standing := by
              rw [hd, Option.map_some, Option.map_some, standing]
            cases result with
            | ok done =>
                simp only [hw]
                exact ⟨rfl, rfl, moved, rfl, [.wrote p (.ok ())], rfl, by simp [Event.isTraffic]⟩
            | error e =>
                simp only [hw]
                exact ⟨rfl, rfl, moved, rfl, [.wrote p (.error e)], rfl, by simp [Event.isTraffic]⟩

theorem events_writePacket_failed {p : Packet} {w w' : World} {e : HostError}
    (h : w.writePacket p = (.failed e, w')) : .wrote p (.error e) ∈ w'.events := by
  rw [writePacket] at h
  split at h
  · cases h
  · cases hd : w.device with
    | none => simp [hd] at h
    | some device =>
        cases hw : device.write p with
        | mk result device' =>
            simp only [hd, hw] at h
            cases result with
            | ok done => cases h
            | error e' =>
                cases h
                simp [record]

/-! ## Stimuli -/

theorem feel_spec (x : Stimulus) (w : World) :
    (w.feel x).device.map Device.standing = w.device.map Device.standing ∧
      ((w.feel x).socket.active = true → w.socket.active = true) ∧
      (w.feel x).events =
        w.events ++ (if x = .close then [.closed w.socket.close.1] else []) := by
  have same : ∀ f : Device → Device, (∀ d, (f d).standing = d.standing) →
      (w.device.map f).map Device.standing = w.device.map Device.standing := by
    intro f hf
    rw [Option.map_map]
    exact congrArg (fun g => Option.map g w.device) (funext hf)
  cases x with
  | packet p => exact ⟨same _ fun _ => rfl, id, by simp [feel, onDevice]⟩
  | failRead reason => exact ⟨same _ fun _ => rfl, id, by simp [feel, onDevice]⟩
  | failWrite reason => exact ⟨same _ fun _ => rfl, id, by simp [feel, onDevice]⟩
  | close =>
      refine ⟨rfl, ?_, by simp [feel, closeSocket, record]⟩
      intro active
      rw [feel, closeSocket] at active
      exact absurd ((Socket.active_close w.socket).symm.trans active) (by simp)
  | _ => exact ⟨rfl, id, by simp [feel, onSocket, onRoutes]⟩

end World

end TunnelClient
