import TunnelClient.Text.Numeral

/-!
# IPv4 addresses

IPv4 addresses as 32-bit words, with their dotted text.
-/

namespace TunnelClient

structure Ipv4 where
  bits : UInt32
  deriving DecidableEq, Repr, Inhabited

namespace Ipv4

def ofOctets (a b c d : UInt8) : Ipv4 :=
  ⟨(a.toUInt32 <<< 24) ||| (b.toUInt32 <<< 16) ||| (c.toUInt32 <<< 8) ||| d.toUInt32⟩

def octet (a : Ipv4) (shift : UInt32) : UInt8 := (a.bits >>> shift).toUInt8

def octets (a : Ipv4) : List UInt8 := [a.octet 24, a.octet 16, a.octet 8, a.octet 0]

def ofBytes? : List UInt8 → Option Ipv4
  | [a, b, c, d] => some (ofOctets a b c d)
  | _ => none

def unspecified : Ipv4 := ⟨0⟩

def loopback : Ipv4 := ⟨0x7F000001⟩

def broadcast : Ipv4 := ⟨0xFFFFFFFF⟩

def isMulticast (a : Ipv4) : Bool := a.octet 24 &&& 0xF0 == 0xE0

def isLoopback (a : Ipv4) : Bool := a.octet 24 == 127

/-! ## Text -/

def text (a : Ipv4) : String :=
  ".".intercalate (a.octets.map fun o => toString o.toNat)

def octetForm : Text.Numeral.Form := ⟨10, some 3, false, 256⟩

def read? (cs : List Char) : Option (Ipv4 × List Char) := do
  let (a, cs) ← Text.Numeral.read? octetForm cs
  let '.' :: cs := cs | none
  let (b, cs) ← Text.Numeral.read? octetForm cs
  let '.' :: cs := cs | none
  let (c, cs) ← Text.Numeral.read? octetForm cs
  let '.' :: cs := cs | none
  let (d, cs) ← Text.Numeral.read? octetForm cs
  some (ofOctets (.ofNat a) (.ofNat b) (.ofNat c) (.ofNat d), cs)

def parseChars? (cs : List Char) : Option Ipv4 :=
  match read? cs with
  | some (a, []) => some a
  | _ => none

def parse? (s : String) : Option Ipv4 := parseChars? s.toList

/-! ## Networks -/

def shiftLeft? (word : UInt32) (amount : Nat) : Option UInt32 :=
  if amount < 32 then some (word <<< UInt32.ofNat amount) else none

def mask (length : Nat) : UInt32 := (shiftLeft? 0xFFFFFFFF (32 - min length 32)).getD 0

/-- Whether two addresses agree in the first `length` bits. -/
def sameNetwork (length : Nat) (a b : Ipv4) : Bool :=
  a.bits &&& mask length == b.bits &&& mask length

end Ipv4

end TunnelClient
