import TunnelClient.Route.Detour
import TunnelClient.Session.World
import TunnelClient.Text.Duration

/-!
# The handshake

The handshake: one Request goes out, the first reply decides.  An Accept leads to
a device with the granted address, which is brought up, and to the detour of all
traffic through it; if one of these fails the device is brought down again.
-/

namespace TunnelClient

structure Tunnel where
  address : TunnelAddress
  snapshot : RouteSnapshot
  deriving DecidableEq, Repr

def Tunnel.dump (deviceName : String) (t : Tunnel) : String :=
  "Tunnel \x7b device: " ++ Text.Quoted.quote deviceName ++ ", address: TunnelAddress("
    ++ t.address.text ++ "), routing: " ++ t.snapshot.dump ++ " \x7d"

inductive Handshake where
  | waiting (deadline : Nat)
  | stuck
  | finished (outcome : Except ClientError Tunnel)

namespace Handshake

def peerIpv4 (c : Setup) : Except ClientError Ipv4 :=
  match c.peer.address with
  | .v4 a => .ok a
  | .v6 a => .error (.configInvalid "peer.host" (a.text ++ " is not IPv4"))

def granted (key : PresharedKey) (reply : Datagram) : Except WireError TunnelAddress :=
  Seal.unwrapFrame key reply >>= Frame.grantedAddress

def start (c : Setup) (w : World) : Handshake × World :=
  match peerIpv4 c with
  | .error e => (.finished (.error e), w)
  | .ok _ =>
    match w.sealFrame c ⟨.request, []⟩ with
    | (.error e, w) => (.finished (.error (.ofWire e)), w)
    | (.ok request, w) =>
      match w.send c request with
      | (.done, w) => (.waiting (w.clock + c.timeout), w)
      | (.failed e, w) => (.finished (.error (.ofHost e)), w)
      | (.hangs, w) => (.stuck, w)

def setUp (c : Setup) (peer : Ipv4) (address : TunnelAddress) (w : World) :
    Except ClientError Tunnel × World :=
  match w.createDevice (c.device.withAddress address.inner) with
  | (.error e, w) => (.error (.ofHost e), w)
  | (.ok (), w) =>
    match w.bringUp with
    | (.error e, w) => (.error (.ofHost e), w.bringDown)
    | (.ok (), w) =>
      match Detour.install World.router peer address.gateway w with
      | (.error e, w) => (.error (.ofHost e), w.bringDown)
      | (.ok snapshot, w) => (.ok ⟨address, snapshot⟩, w)

def answer (c : Setup) (reply : Datagram) (w : World) : Except ClientError Tunnel × World :=
  match peerIpv4 c with
  | .error e => (.error e, w)
  | .ok peer =>
    match granted c.key reply with
    | .error e => (.error (.ofWire e), w)
    | .ok address => setUp c peer address w

/-- One move, if there is one: the reply comes before the deadline counts. -/
def step (c : Setup) (h : Handshake) (w : World) : Option (Handshake × World) :=
  match h with
  | waiting deadline =>
    match w.receive? with
    | some (.error e, w) => some (finished (.error (.ofHost e)), w)
    | some (.ok reply, w) =>
      let (outcome, w) := answer c reply w
      some (finished outcome, w)
    | none =>
      if deadline ≤ w.clock then
        some (finished (.error (.handshakeTimeout (c.timeout / 1000))), w)
      else none
  | stuck | finished _ => none

def dump (c : Setup) : String :=
  "HandshakeService \x7b peer: " ++ c.peer.text ++ ", device: "
    ++ Text.Quoted.quote c.device.name ++ ", timeout: "
    ++ Text.Duration.ofMilliseconds c.timeout ++ " \x7d"

end Handshake

end TunnelClient
