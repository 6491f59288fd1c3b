import TunnelClient.Session.World

/-!
# Stimuli

What reaches a running client from outside: traffic, failures, requests, time,
and changes that others make to the routing table.
-/

namespace TunnelClient

inductive Stimulus where
  | datagram (d : Datagram)
  | packet (p : Packet)
  | failRead (reason : String)
  | failWrite (reason : String)
  | failSend (reason : String)
  | failReceive (reason : String)
  | failClose (reason : String)
  | failDown (reason : String)
  | hangSend
  | hangWrite
  | failRoute (kind : RouteKind)
  | unfailRoute (kind : RouteKind)
  | setDefault (gateway : Ipv4)
  | clearHost (host : Ipv4)
  | linkDown (address : Ipv4) (length : Nat)
  | request (r : TerminateRequest)
  | dropTrigger
  | close
  | peerClose
  | elapse (milliseconds : Nat)
  | stop
  deriving DecidableEq, Repr

namespace Stimulus

def wakes : Stimulus → Option Role
  | packet _ | failRead _ => some .uplink
  | datagram _ | failReceive _ | close => some .downlink
  | request _ => some .listener
  | _ => none

end Stimulus

/-! ## What a stimulus needs -/

inductive Need where
  | device
  | trigger
  | shutdownChannel
  deriving DecidableEq, Repr

def Need.lacking : Need → String
  | device => "no device"
  | trigger => "no trigger"
  | shutdownChannel => "no shutdown channel"

def Stimulus.need? : Stimulus → Option Need
  | packet _ | failRead _ | failWrite _ => some .device
  | request _ => some .trigger
  | stop => some .shutdownChannel
  | _ => none

namespace World

def onSocket (f : Socket → Socket) (w : World) : World := { w with socket := f w.socket }

def onDevice (f : Device → Device) (w : World) : World := { w with device := w.device.map f }

def onRoutes (f : FaultyRoutes → FaultyRoutes) (w : World) : World :=
  { w with routes := f w.routes }

/-- Triggers and shutdown channels are no part of the world, so requests change nothing here. -/
def feel (s : Stimulus) (w : World) : World :=
  match s with
  | .datagram d => w.onSocket (Socket.deliver d)
  | .packet p => w.onDevice (Device.inject p)
  | .failRead reason => w.onDevice (Device.armRead reason)
  | .failWrite reason => w.onDevice (Device.armWrite reason)
  | .failSend reason => w.onSocket fun s => { s with sendFailure := some reason }
  | .failReceive reason => w.onSocket fun s => { s with receiveFailure := some reason }
  | .failClose reason => w.onSocket fun s => { s with closeFailure := some reason }
  | .failDown reason => { w with downFailure := some reason }
  | .hangSend => w.onSocket fun s => { s with sendHangs := true }
  | .hangWrite => { w with writeHangs := true }
  | .failRoute kind => w.onRoutes (FaultyRoutes.fail kind)
  | .unfailRoute kind => w.onRoutes (FaultyRoutes.unfail kind)
  | .setDefault gateway => w.onRoutes fun r => (r.meddle .clearDefault).meddle (.setDefault gateway)
  | .clearHost host => w.onRoutes (FaultyRoutes.meddle (.clearHost host))
  | .linkDown address length =>
      w.onRoutes (FaultyRoutes.mapTable (RouteTable.linkDown address length))
  | .request _ | .dropTrigger | .stop => w
  | .close => w.closeSocket
  | .peerClose => w.onSocket fun s => { s with peerGone := true }
  | .elapse milliseconds => { w with clock := w.clock + milliseconds }

end World

end TunnelClient
