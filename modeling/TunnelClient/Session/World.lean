import TunnelClient.Device.Basic
import TunnelClient.Session.Event
import TunnelClient.Wire.Seal

/-!
# The client's world

What a client acts on: its socket, the devices its provider opens, the routing
table, and a clock that moves only when told to.  Every action is recorded.
-/

namespace TunnelClient

/-! ## The socket -/

structure Socket where
  inbound : List Datagram := []
  active : Bool := true
  sendFailure : Option String := none
  receiveFailure : Option String := none
  closeFailure : Option String := none
  sendHangs : Bool := false
  peerGone : Bool := false
  deriving DecidableEq, Repr

namespace Socket

def deliver (d : Datagram) (s : Socket) : Socket := { s with inbound := s.inbound ++ [d] }

def poll? (s : Socket) : Option (Except HostError Datagram × Socket) :=
  if !s.active then some (.error .shuttingDown, s)
  else
    match s.receiveFailure with
    | some reason => some (.error (.receiveFailed reason), { s with receiveFailure := none })
    | none =>
      match s.inbound with
      | [] => none
      | d :: rest => some (.ok (d.take Frame.maxDatagram), { s with inbound := rest })

inductive SendResult where
  | done
  | failed (e : HostError)
  | hangs
  deriving DecidableEq, Repr

/-- Sending to a peer that is gone succeeds and makes the next receive fail. -/
def send (peer : Endpoint) (s : Socket) : SendResult × Socket :=
  if !s.active then (.failed .shuttingDown, s)
  else
    match s.sendFailure with
    | some reason => (.failed (.sendFailed peer reason), { s with sendFailure := none })
    | none =>
      if s.sendHangs then (.hangs, s)
      else if s.peerGone then
        (.done, { s with receiveFailure := some (SystemError.number 111).message })
      else (.done, s)

def close (s : Socket) : Except HostError Unit × Socket :=
  match s.closeFailure with
  | some reason =>
    (.error (.receiveFailed reason), { s with active := false, closeFailure := none })
  | none => (.ok (), { s with active := false })

end Socket

/-! ## The client's own parameters -/

/-- `device` is the template of the device; its address is replaced by the one granted. -/
structure Setup where
  key : PresharedKey
  peer : Endpoint
  device : DeviceSettings
  timeout : Nat
  nonces : Nat → Nonce

/-! ## The world -/

structure World where
  clock : Nat := 0
  socket : Socket := {}
  provider : DeviceProvider := {}
  device : Option Device := none
  upFailure : Option String := none
  downFailure : Option String := none
  writeHangs : Bool := false
  routes : FaultyRoutes
  drawn : Nat := 0
  events : List Event := []

namespace World

def forget (w : World) : World := { w with events := [] }

def record (e : Event) (w : World) : World := { w with events := w.events ++ [e] }

/-- Seals a frame under a nonce not drawn before. -/
def sealFrame (c : Setup) (f : Frame) (w : World) : Except WireError Datagram × World :=
  (Seal.wrapFrame c.key (c.nonces w.drawn) f, { w with drawn := w.drawn + 1 })

def send (c : Setup) (d : Datagram) (w : World) : Socket.SendResult × World :=
  let (result, socket) := w.socket.send c.peer
  let w := { w with socket := socket }
  match result with
  | .done => (result, w.record (.sent d))
  | .failed e => (result, w.record (.sendFailed e))
  | .hangs => (result, w.record .sendHung)

def receive? (w : World) : Option (Except HostError Datagram × World) :=
  match w.socket.poll? with
  | none => none
  | some (.ok d, socket) => some (.ok d, { w with socket := socket }.record (.received d))
  | some (.error e, socket) =>
    some (.error e, { w with socket := socket }.record (.receiveFailed e))

def closeSocket (w : World) : World :=
  let (outcome, socket) := w.socket.close
  { w with socket := socket }.record (.closed outcome)

/-! ## The device -/

def createDevice (s : DeviceSettings) (w : World) : Except HostError Unit × World :=
  match w.provider.create s with
  | (.ok device, provider) =>
    (.ok (), { w with provider := provider, device := some device }.record (.created s (.ok ())))
  | (.error e, provider) =>
    (.error e, { w with provider := provider }.record (.created s (.error e)))

def deviceName (w : World) : String :=
  match w.device with
  | some device => device.settings.name
  | none => ""

def bringUp (w : World) : Except HostError Unit × World :=
  match w.upFailure with
  | some reason =>
    let e := HostError.tunConfigFailed w.deviceName reason
    (.error e, { w with upFailure := none }.record (.raised (.error e)))
  | none => (.ok (), { w with device := w.device.map Device.bringUp }.record (.raised (.ok ())))

/-- The device goes down, and a linked one takes its routes with it, even if the call then
reports an armed failure. -/
def bringDown (w : World) : World :=
  let lowered : World :=
    match w.device with
    | none => w
    | some device =>
      { w with
        device := some device.bringDown
        routes :=
          if w.provider.linked then w.routes.mapTable device.routesAfterDown else w.routes }
  match w.downFailure with
  | some reason =>
    { lowered with downFailure := none }.record
      (.lowered (.error (.tunConfigFailed w.deviceName reason)))
  | none => lowered.record (.lowered (.ok ()))

def readPacket? (w : World) : Option (Except HostError Packet × World) :=
  match w.device.bind (Device.poll? Frame.maxDatagram) with
  | none => none
  | some (.ok p, device) => some (.ok p, { w with device := some device }.record (.read p))
  | some (.error e, device) =>
    some (.error e, { w with device := some device }.record (.readFailed e))

inductive WriteResult where
  | done
  | failed (e : HostError)
  | hangs
  deriving DecidableEq, Repr

def writePacket (p : Packet) (w : World) : WriteResult × World :=
  if w.writeHangs then (.hangs, w.record .writeHung)
  else
    match w.device with
    | none => (.done, w)
    | some device =>
      match device.write p with
      | (.ok (), device) => (.done, { w with device := some device }.record (.wrote p (.ok ())))
      | (.error e, device) =>
        (.failed e, { w with device := some device }.record (.wrote p (.error e)))

/-! ## Routes -/

def readRoute (w : World) : Except HostError Ipv4 × World :=
  let (outcome, routes) := w.routes.read
  (outcome, { w with routes := routes }.record (.route (.read w.routes.reaches outcome)))

def changeRoute (c : RouteChange) (w : World) : Except HostError Unit × World :=
  let (outcome, routes) := w.routes.change c
  (outcome, { w with routes := routes }.record (.route (.change w.routes.reaches c outcome)))

def router : Router World := ⟨readRoute, changeRoute⟩

end World

end TunnelClient
