import TunnelClient.Session.Event
import TunnelClient.Wire.Seal

/-!
# The session's log

A session's log: a line for each thing that the client does to its socket, its
device and the routing table.  Sends and reads that fail have no line.
-/

namespace TunnelClient.Event

def datagramText (key : PresharedKey) (d : Datagram) : String :=
  match Seal.unwrapFrame key d with
  | .ok f => f.kind.name ++ " [" ++ Text.Hex.ofBytes f.payload ++ "]"
  | .error _ => "?"

def sentLine (key : PresharedKey) (d : Datagram) : String :=
  let length := d.length
  "send " ++ datagramText key d ++ s!" as {length} bytes"

def createdLine (s : DeviceSettings) (outcome : Except HostError Unit) : String :=
  "tun create " ++ s.name ++ " " ++ s.cidr ++ " mtu " ++ toString s.mtu.toNat
    ++ failureText outcome

def line? (key : PresharedKey) : Event → Option String
  | sent d => some (sentLine key d)
  | sendHung => some "send hangs"
  | created s outcome => some (createdLine s outcome)
  | raised outcome => some ("tun up" ++ failureText outcome)
  | lowered outcome => some ("tun down" ++ failureText outcome)
  | wrote p outcome => some ("tun write " ++ Text.Hex.ofBytes p ++ failureText outcome)
  | writeHung => some "tun write hangs"
  | closed outcome => some ("transport shutdown" ++ failureText outcome)
  | route e => some e.line
  | entered _ | sendFailed _ | received _ | receiveFailed _ | read _ | readFailed _ | reported _
  | broadcast | abandoned _ => none

end TunnelClient.Event
