import TunnelClient.Address.Ipv6

/-!
# Socket addresses

Socket addresses: an IPv4 or IPv6 address with a port.
-/

namespace TunnelClient

inductive IpAddress where
  | v4 (address : Ipv4)
  | v6 (address : Ipv6)
  deriving DecidableEq, Repr

namespace IpAddress

def text : IpAddress → String
  | .v4 a => a.text
  | .v6 a => a.text

def parse? (s : String) : Option IpAddress :=
  match Ipv4.parse? s with
  | some a => some (.v4 a)
  | none => (Ipv6.parse? s).map .v6

end IpAddress

/-- The zone matters for IPv6 only and is zero where none is given. -/
structure Endpoint where
  address : IpAddress
  port : UInt16
  zone : UInt32 := 0
  deriving DecidableEq, Repr

namespace Endpoint

def ofIpv4 (a : Ipv4) (port : UInt16) : Endpoint := ⟨.v4 a, port, 0⟩

def hostText (e : Endpoint) : String :=
  match e.address with
  | .v4 a => a.text
  | .v6 a =>
    let zone := e.zone.toNat
    if zone = 0 then "[" ++ a.text ++ "]" else "[" ++ a.text ++ s!"%{zone}]"

def text (e : Endpoint) : String :=
  e.hostText ++ ":" ++ toString e.port.toNat

def portForm : Text.Numeral.Form := ⟨10, none, true, 65536⟩

def zoneForm : Text.Numeral.Form := ⟨10, none, true, 4294967296⟩

def readPort? : List Char → Option UInt16
  | ':' :: cs =>
    match Text.Numeral.read? portForm cs with
    | some (port, []) => some (.ofNat port)
    | _ => none
  | _ => none

def readZone : List Char → Option (UInt32 × List Char)
  | '%' :: cs => (Text.Numeral.read? zoneForm cs).map fun (zone, rest) => (.ofNat zone, rest)
  | cs => some (0, cs)

def literal? (s : String) : Option IpAddress :=
  match Ipv4.parse? s with
  | some a => some (.v4 a)
  | none => do
    let (a, cs) ← Ipv6.read? s.toList
    let (_, []) ← readZone cs | none
    some (.v6 a)

def parse? (s : String) : Option Endpoint :=
  match s.toList with
  | '[' :: cs => do
    let (a, cs) ← Ipv6.read? cs
    let (zone, cs) ← readZone cs
    let ']' :: cs := cs | none
    let port ← readPort? cs
    some ⟨.v6 a, port, zone⟩
  | cs => do
    let (a, cs) ← Ipv4.read? cs
    let port ← readPort? cs
    some (ofIpv4 a port)

end Endpoint

end TunnelClient
