import TunnelClient.Proofs.Route.Detour
import TunnelClient.Proofs.Wire.Opening
import TunnelClient.Session.Run

/-!
# Blind sessions

Sessions that do not look at what fails to open.  To take every such datagram for the empty
one, in the socket and in the log, commutes with whatever a session does.
-/

namespace TunnelClient

/-! ## Datagrams -/

namespace Seal

def opens (key : PresharedKey) (d : Datagram) : Bool := (unwrap key (d.take Frame.maxDatagram)).isOk

/-- The datagram as one sees it who knows only whether it opens. -/
def blind (key : PresharedKey) (d : Datagram) : Datagram := if opens key d then d else []

variable {key : PresharedKey} {d : Datagram}

theorem blind_of_forged (forged : opens key d = false) : blind key d = [] := by
  rw [blind, forged]
  rfl

theorem opens_take (key : PresharedKey) (d : Datagram) :
    opens key (d.take Frame.maxDatagram) = opens key d := by
  rw [opens, List.take_take, Nat.min_self]
  rfl

private theorem blind_take (key : PresharedKey) (d : Datagram) :
    blind key (d.take Frame.maxDatagram) = (blind key d).take Frame.maxDatagram := by
  rw [blind, opens_take, blind]
  split <;> simp

theorem unwrap_blind (fits : d.length ≤ Frame.maxDatagram) :
    unwrap key (blind key d) = unwrap key d := by
  rw [blind, opens, List.take_of_length_le fits]
  rcases unwrap_cases key d with ⟨text, opened⟩ | failed
  · rw [opened]
    exact opened
  · rw [failed]
    rfl

end Seal

/-! ## The world -/

variable {c : Setup} {key : PresharedKey}

namespace Socket

def blind (key : PresharedKey) (s : Socket) : Socket :=
  { s with inbound := s.inbound.map (Seal.blind key) }

theorem deliver_blind (d : Datagram) (s : Socket) :
    (s.blind key).deliver (Seal.blind key d) = (s.deliver d).blind key := by
  simp [deliver, blind]

private theorem send_blind (key : PresharedKey) (peer : Endpoint) (s : Socket) :
    (s.blind key).send peer = ((s.send peer).1, (s.send peer).2.blind key) := by
  obtain ⟨inbound, active, sendFailure, receiveFailure, closeFailure, sendHangs, peerGone⟩ := s
  cases active <;> cases sendFailure <;> cases sendHangs <;> cases peerGone <;> rfl

private theorem poll?_blind (key : PresharedKey) (s : Socket) :
    (s.blind key).poll? = s.poll?.map fun (outcome, s') =>
      (outcome.map (Seal.blind key), s'.blind key) := by
  obtain ⟨inbound, active, sendFailure, receiveFailure, closeFailure, sendHangs, peerGone⟩ := s
  cases active with
  | false => rfl
  | true =>
      cases receiveFailure with
      | some reason => rfl
      | none =>
          cases inbound with
          | nil => rfl
          | cons d rest =>
              have cut := (Seal.blind_take key d).symm
              simp [poll?, blind, cut, Except.map]

private theorem close_blind (key : PresharedKey) (s : Socket) :
    (s.blind key).close = (s.close.1, s.close.2.blind key) := by
  obtain ⟨inbound, active, sendFailure, receiveFailure, closeFailure, sendHangs, peerGone⟩ := s
  cases closeFailure <;> rfl

end Socket

namespace Event

def blind (key : PresharedKey) : Event → Event
  | received d => .received (Seal.blind key d)
  | e => e

def isReceipt : Event → Bool
  | received _ => true
  | _ => false

theorem filter_blind (key : PresharedKey) (es : List Event) :
    (es.map (blind key)).filter (fun e => !e.isReceipt) = es.filter fun e => !e.isReceipt := by
  induction es with
  | nil => rfl
  | cons e es ih =>
      have same : (blind key e).isReceipt = e.isReceipt := by cases e <;> rfl
      rw [List.map_cons, List.filter_cons, List.filter_cons, ih, same]
      cases e <;> rfl

end Event

namespace World

def blind (key : PresharedKey) (w : World) : World :=
  { w with socket := w.socket.blind key, events := w.events.map (Event.blind key) }

private theorem blind_record (e : Event) (w : World) :
    (w.record e).blind key = (w.blind key).record (e.blind key) := by
  simp [blind, record]

theorem sealFrame_blind (f : Frame) (w : World) :
    (w.blind key).sealFrame c f = ((w.sealFrame c f).1, (w.sealFrame c f).2.blind key) :=
  rfl

private theorem send_blind (d : Datagram) (w : World) :
    (w.blind key).send c d = ((w.send c d).1, (w.send c d).2.blind key) := by
  have socket := Socket.send_blind key c.peer w.socket
  simp only [send, blind, socket]
  cases (w.socket.send c.peer).1 <;> simp [record, Event.blind]

theorem receive?_blind (w : World) :
    (w.blind key).receive? = w.receive?.map fun (outcome, w') =>
      (outcome.map (Seal.blind key), w'.blind key) := by
  have socket := Socket.poll?_blind key w.socket
  simp only [receive?, blind, socket]
  cases w.socket.poll? with
  | none => rfl
  | some polled =>
      obtain ⟨outcome, socket⟩ := polled
      cases outcome <;> simp [record, Event.blind, Except.map]

theorem fits_receive? {w w' : World} {d : Datagram} (h : w.receive? = some (.ok d, w')) :
    d.length ≤ Frame.maxDatagram := by
  rw [receive?] at h
  split at h
  · cases h
  · rename_i d' socket polled
    cases h
    rw [Socket.poll?] at polled
    repeat' split at polled
    all_goals cases polled
    exact List.length_take_le ..
  · cases h

private theorem closeSocket_blind (w : World) :
    (w.blind key).closeSocket = w.closeSocket.blind key := by
  have socket := Socket.close_blind key w.socket
  simp [closeSocket, blind, socket, record, Event.blind]

private theorem createDevice_blind (s : DeviceSettings) (w : World) :
    (w.blind key).createDevice s = ((w.createDevice s).1, (w.createDevice s).2.blind key) := by
  simp only [createDevice, blind]
  cases w.provider.create s with
  | mk outcome provider => cases outcome <;> simp [record, Event.blind]

private theorem bringUp_blind (w : World) :
    (w.blind key).bringUp = (w.bringUp.1, w.bringUp.2.blind key) := by
  simp only [bringUp, blind]
  split <;> simp [record, Event.blind, deviceName]

private theorem bringDown_blind (w : World) : (w.blind key).bringDown = w.bringDown.blind key := by
  simp only [bringDown, blind]
  repeat' split
  all_goals simp_all [record, Event.blind, deviceName]

private theorem readPacket?_blind (w : World) :
    (w.blind key).readPacket? = w.readPacket?.map fun (outcome, w') => (outcome, w'.blind key) := by
  simp only [readPacket?, blind]
  cases w.device.bind (Device.poll? Frame.maxDatagram) with
  | none => rfl
  | some polled =>
      obtain ⟨outcome, device⟩ := polled
      cases outcome <;> simp [record, Event.blind]

private theorem writePacket_blind (p : Packet) (w : World) :
    (w.blind key).writePacket p = ((w.writePacket p).1, (w.writePacket p).2.blind key) := by
  cases hangs : w.writeHangs with
  | true => simp [writePacket, blind, hangs, record, Event.blind]
  | false =>
      cases held : w.device with
      | none => simp [writePacket, blind, hangs, held]
      | some device =>
          cases hwrite : device.write p with
          | mk outcome device =>
              cases outcome <;>
                simp [writePacket, blind, hangs, held, hwrite, record, Event.blind]

private theorem readRoute_blind (w : World) :
    (w.blind key).readRoute = (w.readRoute.1, w.readRoute.2.blind key) := by
  simp [readRoute, blind, record, Event.blind]

private theorem changeRoute_blind (change : RouteChange) (w : World) :
    (w.blind key).changeRoute change =
      ((w.changeRoute change).1, (w.changeRoute change).2.blind key) := by
  simp [changeRoute, blind, record, Event.blind]

end World

/-! ## The handshake -/

namespace World

theorem install_blind (peer tunnel : Ipv4) (w : World) :
    Detour.install router peer tunnel (w.blind key) =
      ((Detour.install router peer tunnel w).1,
        (Detour.install router peer tunnel w).2.blind key) :=
  Detour.install_commutes readRoute_blind changeRoute_blind peer tunnel w

theorem restore_blind (snapshot : RouteSnapshot) (w : World) :
    Detour.restore router snapshot (w.blind key) =
      ((Detour.restore router snapshot w).1, (Detour.restore router snapshot w).2.blind key) :=
  Detour.restore_commutes changeRoute_blind snapshot w

end World

namespace Handshake

private theorem granted_blind {d : Datagram} (fits : d.length ≤ Frame.maxDatagram) :
    granted key (Seal.blind key d) = granted key d := by
  rw [granted, granted, Seal.unwrapFrame, Seal.unwrapFrame, Seal.unwrap_blind fits]

private theorem setUp_blind (peer : Ipv4) (a : TunnelAddress) (w : World) :
    setUp c peer a (w.blind key) =
      ((setUp c peer a w).1, (setUp c peer a w).2.blind key) := by
  simp only [setUp, World.createDevice_blind]
  cases w.createDevice (c.device.withAddress a.inner) with
  | mk outcome w₁ =>
      cases outcome with
      | error e => rfl
      | ok created =>
          simp only [World.bringUp_blind]
          cases w₁.bringUp with
          | mk outcome w₂ =>
              cases outcome with
              | error e => simp only [World.bringDown_blind]
              | ok raised =>
                  simp only [World.install_blind]
                  cases Detour.install World.router peer a.gateway w₂ with
                  | mk outcome w₃ =>
                      cases outcome with
                      | error e => simp only [World.bringDown_blind]
                      | ok snapshot => rfl

theorem answer_blind {d : Datagram} (fits : d.length ≤ Frame.maxDatagram) (w : World) :
    answer c (Seal.blind c.key d) (w.blind c.key) =
      ((answer c d w).1, (answer c d w).2.blind c.key) := by
  simp only [answer, granted_blind fits]
  cases peerIpv4 c with
  | error e => rfl
  | ok peer =>
      cases granted c.key d with
      | error e => rfl
      | ok a => exact setUp_blind peer a w

theorem step_blind (h : Handshake) (w : World) :
    h.step c (w.blind c.key) = (h.step c w).map fun (h', w') => (h', w'.blind c.key) := by
  cases h with
  | stuck | finished outcome => rfl
  | waiting deadline =>
      simp only [step, World.receive?_blind]
      cases hreceive : w.receive? with
      | none =>
          -- Nothing has come, so that the clock alone decides.
          simp only [Option.map_none]
          change (if deadline ≤ w.clock then _ else _) = _
          split <;> rfl
      | some received =>
          obtain ⟨outcome, w'⟩ := received
          cases outcome with
          | error e => rfl
          | ok reply =>
              simp only [Option.map_some, Except.map, answer_blind (World.fits_receive? hreceive)]

end Handshake

/-! ## The relay -/

namespace Relay

private theorem packetOf_blind {d : Datagram} (fits : d.length ≤ Frame.maxDatagram) :
    packetOf key (Seal.blind key d) = packetOf key d := by
  rw [packetOf, packetOf, Seal.unwrapFrame, Seal.unwrapFrame, Seal.unwrap_blind fits]

end Relay

def Traffic.blind (key : PresharedKey) (t : Traffic) : Traffic :=
  { t with world := t.world.blind key }

namespace Relay

private theorem uplinkInput_blind (t : Traffic) :
    uplinkInput (t.blind key) = (uplinkInput t).map fun (l, t') => (l, t'.blind key) := by
  simp only [uplinkInput, Traffic.blind, World.readPacket?_blind]
  cases t.world.readPacket? with
  | none => rfl
  | some reading =>
      obtain ⟨outcome, w⟩ := reading
      cases outcome <;> rfl

private theorem uplinkOutput_blind (p : Packet) (t : Traffic) :
    uplinkOutput c p (t.blind key) =
      ((uplinkOutput c p t).1, (uplinkOutput c p t).2.blind key) := by
  simp only [uplinkOutput, Traffic.blind, World.sealFrame_blind]
  cases t.world.sealFrame c ⟨.data, p⟩ with
  | mk outcome w =>
      cases outcome with
      | error e => rfl
      | ok d =>
          simp only [World.send_blind]
          cases w.send c d with
          | mk result w' => cases result <;> rfl

private theorem downlinkInput_blind (t : Traffic) :
    downlinkInput c (t.blind c.key) =
      (downlinkInput c t).map fun (l, t') => (l, t'.blind c.key) := by
  simp only [downlinkInput, Traffic.blind, World.receive?_blind]
  cases hreceive : t.world.receive? with
  | none => rfl
  | some received =>
      obtain ⟨outcome, w⟩ := received
      cases outcome with
      | error e => rfl
      | ok d =>
          have same : packetOf c.key (Seal.blind c.key d) = packetOf c.key d :=
            packetOf_blind (World.fits_receive? hreceive)
          simp only [Option.map_some, Except.map, same]
          cases packetOf c.key d <;> rfl

private theorem downlinkOutput_blind (p : Packet) (t : Traffic) :
    downlinkOutput p (t.blind key) =
      ((downlinkOutput p t).1, (downlinkOutput p t).2.blind key) := by
  simp only [downlinkOutput, Traffic.blind, World.writePacket_blind]
  cases t.world.writePacket p with
  | mk result w => cases result <;> rfl

private theorem cancel_blind (told obey : Bool) (input : Option (Loop × Traffic)) (t : Traffic) :
    cancel told obey (input.map fun (l, t') => (l, t'.blind key)) (t.blind key) =
      (cancel told obey input t).map fun (l, t') => (l, t'.blind key) := by
  cases input <;> cases told <;> cases obey <;> rfl

theorem uplinkStep_blind (told obey : Bool) (l : Loop) (t : Traffic) :
    uplinkStep c told obey l (t.blind key) =
      (uplinkStep c told obey l t).map fun (l', t') => (l', t'.blind key) := by
  cases l with
  | waiting => simp only [uplinkStep, uplinkInput_blind, cancel_blind]
  | holding p => simp only [uplinkStep, uplinkOutput_blind, Option.map_some]
  | stuck | ended e => rfl

theorem downlinkStep_blind (told obey : Bool) (l : Loop) (t : Traffic) :
    downlinkStep c told obey l (t.blind c.key) =
      (downlinkStep c told obey l t).map fun (l', t') => (l', t'.blind c.key) := by
  cases l with
  | waiting => simp only [downlinkStep, downlinkInput_blind, cancel_blind]
  | holding p => simp only [downlinkStep, downlinkOutput_blind, Option.map_some]
  | stuck | ended e => rfl

end Relay

/-! ## Sessions -/

namespace Session

def blind (key : PresharedKey) (s : Session) : Session := s.withWorld (s.world.blind key)

private theorem blind_record (e : Event) (s : Session) (same : e.blind key = e) :
    (s.record e).blind key = (s.blind key).record e := by
  simp only [blind, record, withWorld, world, World.blind_record, same]

private theorem enter_blind (next : Phase) (s : Session) :
    (s.blind key).enter next = (s.enter next).map (blind key) := by
  have phase : (s.blind key).phase = s.phase := rfl
  rw [enter, enter, phase]
  cases s.phase.become next with
  | error e => rfl
  | ok phase' => exact congrArg Except.ok (blind_record _ { s with phase := phase' } rfl).symm

private theorem conclude_blind (outcome : Except ClientError Tunnel) (s : Session) :
    (s.blind key).conclude outcome = (s.conclude outcome).blind key := by
  cases outcome with
  | error e =>
      simp only [conclude, enter_blind]
      cases s.enter .closed with
      | error e' => rfl
      | ok s' =>
          change (((s'.blind key).withWorld (s'.world.blind key).closeSocket).finish (.error e)) = _
          rw [World.closeSocket_blind]
          rfl
  | ok t =>
      simp only [conclude, enter_blind]
      cases s.enter .established <;> rfl

private theorem afterHandshake_blind (h : Handshake) (s : Session) :
    (s.blind key).afterHandshake h = (s.afterHandshake h).blind key := by
  cases h with
  | finished outcome => exact conclude_blind outcome s
  | waiting deadline | stuck => rfl

private theorem post?_blind (cause : Cause) (s : Session) :
    (s.blind key).post? cause = (s.post? cause).map (blind key) := by
  simp only [post?]
  change (if s.channel.length < channelCapacity then _ else _) = _
  split
  · exact congrArg some (blind_record _ { s with channel := s.channel ++ [cause] } rfl).symm
  · rfl

theorem stepUplink_blind (obey : Bool) (s : Session) :
    (s.blind key).stepUplink c obey = (s.stepUplink c obey).map (blind key) := by
  have same : (s.blind key).uplink = s.uplink := rfl
  rw [stepUplink, stepUplink, same]
  cases s.uplink with
  | unborn | finished => rfl
  | reporting cause =>
      simp only [post?_blind, Option.map_map]
      rfl
  | running l =>
      change Option.map _ (Relay.uplinkStep c _ obey l (s.traffic.blind key)) = _
      rw [Relay.uplinkStep_blind, Option.map_map, Option.map_map]
      rfl

theorem stepDownlink_blind (obey : Bool) (s : Session) :
    (s.blind c.key).stepDownlink c obey = (s.stepDownlink c obey).map (blind c.key) := by
  have same : (s.blind c.key).downlink = s.downlink := rfl
  rw [stepDownlink, stepDownlink, same]
  cases s.downlink with
  | unborn | finished => rfl
  | reporting cause =>
      simp only [post?_blind, Option.map_map]
      rfl
  | running l =>
      change Option.map _ (Relay.downlinkStep c _ obey l (s.traffic.blind c.key)) = _
      rw [Relay.downlinkStep_blind, Option.map_map, Option.map_map]
      rfl

theorem stepListener_blind (obey : Bool) (s : Session) :
    (s.blind key).stepListener obey = (s.stepListener obey).map (blind key) := by
  have same : (s.blind key).listener = s.listener := rfl
  have trigger : (s.blind key).trigger = s.trigger := rfl
  have told : (s.blind key).told = s.told := rfl
  rw [stepListener, stepListener, same, trigger, told]
  cases s.listener with
  | unborn | finished => rfl
  | reporting cause =>
      simp only [post?_blind, Option.map_map]
      rfl
  | running l =>
      cases l with
      | fresh =>
          simp only
          split
          · rfl
          · cases s.trigger.take <;> rfl
      | waiting =>
          simp only
          cases s.trigger.request? with
          | none =>
              simp only
              split <;> rfl
          | some r =>
              simp only
              split <;> rfl

/-! ### The coordinator -/

private theorem beginTeardown_blind (t : Tunnel) (cause : Cause) (s : Session) :
    (s.blind key).beginTeardown t cause = (s.beginTeardown t cause).blind key := by
  simp only [beginTeardown, enter_blind]
  cases s.enter .terminating with
  | error e => rfl
  | ok s' =>
      have logged : (s'.record .broadcast).blind key = (s'.blind key).record .broadcast :=
        blind_record .broadcast s' rfl
      simp only [Except.map, ← logged]
      rfl

private theorem endTeardown_blind (t : Tunnel) (cause : Cause) (s : Session) :
    (s.blind key).endTeardown t cause = (s.endTeardown t cause).blind key := by
  have undone : Detour.restore World.router t.snapshot (s.blind key).world.bringDown.closeSocket =
      ((Detour.restore World.router t.snapshot s.world.bringDown.closeSocket).1,
        (Detour.restore World.router t.snapshot s.world.bringDown.closeSocket).2.blind key) := by
    change Detour.restore World.router t.snapshot (s.world.blind key).bringDown.closeSocket = _
    rw [World.bringDown_blind, World.closeSocket_blind, World.restore_blind]
  simp only [endTeardown, undone]
  generalize Detour.restore World.router t.snapshot s.world.bringDown.closeSocket = restored
  have moved : (s.blind key).withWorld (restored.2.blind key) =
      (s.withWorld restored.2).blind key := rfl
  rw [moved, enter_blind]
  cases (s.withWorld restored.2).enter .closed <;> rfl

private theorem joinNext_blind (t : Tunnel) (cause : Cause) (role : Role) (s : Session) :
    (s.blind key).joinNext t cause role = (s.joinNext t cause role).blind key := by
  cases role with
  | uplink | downlink => rfl
  | listener => exact endTeardown_blind t cause s

theorem stepCoordinator_blind (s : Session) :
    (s.blind c.key).stepCoordinator c = (s.stepCoordinator c).map (blind c.key) := by
  have same : (s.blind c.key).coordinator = s.coordinator := rfl
  rw [stepCoordinator, stepCoordinator, same]
  cases s.coordinator with
  | fresh | finished outcome => rfl
  | handshaking h =>
      change Option.map _ (h.step c (s.world.blind c.key)) = _
      rw [Handshake.step_blind, Option.map_map, Option.map_map]
      exact congrArg (Option.map · _)
        (funext fun (h', w) => afterHandshake_blind h' (s.withWorld w))
  | awaiting t =>
      have channel : (s.blind c.key).channel = s.channel := rfl
      simp only [channel]
      cases s.channel with
      | cons cause rest =>
          exact congrArg some (beginTeardown_blind t cause
            { s with channel := rest, coordinator := .awaiting t })
      | nil =>
          change (if (s.uplink.isOver && s.downlink.isOver && s.listener.isOver) = true then _
            else _) = _
          simp only
          split
          · exact congrArg some (beginTeardown_blind t .aborted s)
          · rfl
  | joining t cause role deadline =>
      have over' : (s.blind c.key).isOver role = s.isOver role := rfl
      have clock : (s.blind c.key).world.clock = s.world.clock := rfl
      simp only [over', clock]
      split
      · exact congrArg some (joinNext_blind t cause role s)
      · split
        · have given : (s.blind c.key).abandon role = (s.abandon role).blind c.key :=
            (blind_record _ { s with abandoned := s.abandoned ++ [role] } rfl).symm
          rw [given]
          exact congrArg some (joinNext_blind t cause role (s.abandon role))
        · rfl

/-! ### Moves -/

end Session

def Stimulus.blind (key : PresharedKey) : Stimulus → Stimulus
  | datagram d => .datagram (Seal.blind key d)
  | x => x

private theorem World.feel_blind (x : Stimulus) (w : World) :
    (w.blind key).feel (x.blind key) = (w.feel x).blind key := by
  cases x with
  | datagram d =>
      simp only [feel, Stimulus.blind, onSocket, blind, Socket.deliver_blind]
  | close => exact closeSocket_blind w
  | _ => rfl

namespace Session

def Move.blind (key : PresharedKey) : Move → Move
  | stimulus x => .stimulus (x.blind key)
  | m => m

theorem feel_blind (x : Stimulus) (s : Session) :
    (s.blind key).feel (x.blind key) = (s.feel x).blind key := by
  have world : (s.world.blind key).feel (x.blind key) = (s.world.feel x).blind key :=
    World.feel_blind x s.world
  cases x with
  | request r => rfl
  | dropTrigger => rfl
  | _ => exact congrArg (withWorld · s) world

theorem move_blind (m : Move) (s : Session) :
    (s.blind c.key).move c (m.blind c.key) = (s.move c m).blind c.key := by
  have optional : ∀ o : Option Session,
      (o.map (blind c.key)).getD (s.blind c.key) = (o.getD s).blind c.key := by
    rintro (_ | s') <;> rfl
  cases m with
  | stimulus x => exact feel_blind x s
  | task role obey =>
      have step : (s.blind c.key).stepRole c role obey =
          (s.stepRole c role obey).map (blind c.key) := by
        cases role with
        | uplink => exact stepUplink_blind obey s
        | downlink => exact stepDownlink_blind obey s
        | listener => exact stepListener_blind obey s
      change ((s.blind c.key).stepRole c role obey).getD (s.blind c.key) = _
      rw [step, optional, move]
  | coordinator =>
      change ((s.blind c.key).stepCoordinator c).getD (s.blind c.key) = _
      rw [stepCoordinator_blind, optional, move]

theorem run_blind (moves : List Move) (s : Session) :
    run c (s.blind c.key) (moves.map (Move.blind c.key)) = (run c s moves).blind c.key := by
  induction moves generalizing s with
  | nil => rfl
  | cons m moves ih =>
      change run c ((s.blind c.key).move c (m.blind c.key)) (moves.map (Move.blind c.key)) = _
      rw [move_blind, ih]
      rfl

end Session

end TunnelClient
