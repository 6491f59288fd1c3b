import TunnelClient.Wire.Error

/-!
# Frames

Frames and their bytes: a four-byte marker, one byte for the kind, and the
payload.  Reading reports the first fault in the order length, marker, kind.
-/

namespace TunnelClient

abbrev Packet := List UInt8

abbrev Datagram := List UInt8

structure Frame where
  kind : FrameKind
  payload : List UInt8
  deriving DecidableEq, Repr

namespace Frame

def marker : UInt32 := 0xCAFEBABE

def headerLength : Nat := 5

def maxDatagram : Nat := 1600

def bigEndian (a b c d : UInt8) : UInt32 :=
  (a.toUInt32 <<< 24) ||| (b.toUInt32 <<< 16) ||| (c.toUInt32 <<< 8) ||| d.toUInt32

def encode (f : Frame) : List UInt8 :=
  0xCA :: 0xFE :: 0xBA :: 0xBE :: f.kind.byte :: f.payload

def decode : List UInt8 → Except WireError Frame
  | a :: b :: c :: d :: k :: payload =>
    if bigEndian a b c d ≠ marker then .error (.badMarker (bigEndian a b c d))
    else
      match FrameKind.ofByte? k with
      | some kind => .ok ⟨kind, payload⟩
      | none => .error (.unknownFrameKind k)
  | short => .error (.messageTooShort headerLength short.length)

def expect (kind : FrameKind) (f : Frame) : Except WireError Frame :=
  if f.kind = kind then .ok f else .error (.unexpectedKind kind f.kind)

def grantedAddress (f : Frame) : Except WireError TunnelAddress := do
  let f ← f.expect .accept
  (TunnelAddress.ofBytes f.payload).mapError .invalidAssignment

end Frame

end TunnelClient
