import TunnelClient.Host.Network
import TunnelClient.Wire.Frame

/-!
# UDP transport

A UDP socket connected to one peer.  Any number of receive calls may wait on it;
shutting it down is final and ends them all.
-/

namespace TunnelClient.Udp

inductive Receipt where
  | datagram (d : Datagram)
  | failed (e : HostError)
  deriving DecidableEq, Repr

structure Receiver where
  caller : Nat
  capacity : Nat
  deriving DecidableEq, Repr

/-- `queue` holds what has arrived and was not taken, `fault` an error that the network reported
and no call has met yet, and `returned` what finished receive calls gave, oldest first. -/
structure Transport where
  localAddress : Endpoint
  peer : Endpoint
  closed : Bool := false
  queue : List Datagram := []
  fault : Option SystemError := none
  peerGone : Bool := false
  waiting : List Receiver := []
  sent : List Datagram := []
  returned : List (Nat × Receipt) := []
  deriving DecidableEq, Repr

/-! ## Setting up -/

def anyAddressFor (peer : Endpoint) : Endpoint :=
  match peer.address with
  | .v4 _ => ⟨.v4 .unspecified, 0, 0⟩
  | .v6 _ => ⟨.v6 .unspecified, 0, 0⟩

def bindError (address : Endpoint) (e : SystemError) : HostError :=
  if e = .number 98 then .addressInUse address else .bindFailed address e.message

def connectFrom (n : Network) (address peer : Endpoint) : Except HostError Transport :=
  match n.bind address with
  | .error e => .error (bindError address e)
  | .ok bound =>
    match n.connect bound peer with
    | .error e => .error (.connectFailed peer e.message)
    | .ok () => .ok { localAddress := bound, peer := peer }

def connect (n : Network) (peer : Endpoint) : Except HostError Transport :=
  connectFrom n (anyAddressFor peer) peer

namespace Transport

def isActive (t : Transport) : Bool := !t.closed

/-- A call that begins after the shutdown is refused. -/
def checkOpen (t : Transport) : Except HostError Unit :=
  if t.closed then .error .shuttingDown else .ok ()

/-! ## Receiving -/

def finish (r : Receiver) (receipt : Receipt) (t : Transport) : Transport :=
  { t with
    waiting := t.waiting.filter fun other => other.caller != r.caller
    returned := t.returned ++ [(r.caller, receipt)] }

/-- What the socket gives at once, if anything: a fault before any datagram, and a datagram cut
to the buffer. -/
def poll? (capacity : Nat) (t : Transport) : Option (Receipt × Transport) :=
  match t.fault with
  | some e => some (.failed (.receiveFailed e.message), { t with fault := none })
  | none =>
    match t.queue with
    | [] => none
    | d :: rest => some (.datagram (d.take capacity), { t with queue := rest })

def enter (r : Receiver) (t : Transport) : Transport :=
  match t.checkOpen with
  | .error e => t.finish r (.failed e)
  | .ok () => { t with waiting := t.waiting ++ [r] }

/-- One look of a call that waits.  If it finds the socket closed and has something to take
as well, `obey` says what it sees first. -/
def look (obey : Bool) (r : Receiver) (t : Transport) : Transport :=
  match t.poll? r.capacity with
  | some (receipt, after) =>
    if t.closed && obey then t.finish r (.failed .shuttingDown) else after.finish r receipt
  | none => if t.closed then t.finish r (.failed .shuttingDown) else t

def receive (r : Receiver) (t : Transport) : Transport :=
  if t.closed then t.enter r else (t.enter r).look false r

def settle (t : Transport) : Transport := t.waiting.foldl (fun t r => t.look false r) t

/-! ## Sending -/

/-- The most that one UDP datagram over IPv4 carries. -/
def maxPayload : Nat := 65507

def tooLong : SystemError := .number 90

def refused : SystemError := .number 111

/-- Gives the number of bytes sent.  A peer that is gone refuses the datagram, and the next call
meets the refusal. -/
def transmit (d : Datagram) (t : Transport) : Except HostError Nat × Transport :=
  match t.fault with
  | some e => (.error (.sendFailed t.peer e.message), { t with fault := none })
  | none =>
    if maxPayload < d.length then (.error (.sendFailed t.peer tooLong.message), t)
    else
      let fault := if t.peerGone then some refused else none
      (.ok d.length, { t with sent := t.sent ++ [d], fault := fault })

def send (d : Datagram) (t : Transport) : Except HostError Nat × Transport :=
  match t.checkOpen with
  | .error e => (.error e, t)
  | .ok () => t.transmit d

/-! ## Other events -/

def arrive (d : Datagram) (t : Transport) : Transport := { t with queue := t.queue ++ [d] }

def losePeer (t : Transport) : Transport := { t with peerGone := true }

def shutdown (t : Transport) : Transport := { t with closed := true }

def dump (t : Transport) : String :=
  "UdpTransport \x7b local: " ++ t.localAddress.text ++ ", peer: " ++ t.peer.text ++ ", active: "
    ++ toString t.isActive ++ " \x7d"

end Transport

end TunnelClient.Udp
