import TunnelClient.Address.Tunnel
import TunnelClient.Text.Hex
import TunnelClient.Wire.Kind

/-!
# Wire errors

What can be wrong with a frame, a key or a datagram.
-/

namespace TunnelClient

inductive WireError where
  | encryption (context : String)
  | decryption
  | invalidKey (reason : String)
  | keyDerivation (reason : String)
  | messageTooShort (expected actual : Nat)
  | badMarker (got : UInt32)
  | unknownFrameKind (got : UInt8)
  | unexpectedKind (expected got : FrameKind)
  | invalidAssignment (cause : AddressError)
  deriving DecidableEq, Repr

namespace WireError

def message : WireError → String
  | encryption context => s!"Sealing {context} failed"
  | decryption => "Datagram failed authentication"
  | invalidKey reason => s!"Unusable pre-shared key: {reason}"
  | keyDerivation reason => s!"Cannot derive key: {reason}"
  | messageTooShort expected actual =>
    s!"Frame of {actual} bytes is shorter than the {expected}-byte header"
  | badMarker got => "Frame marker 0x" ++ Text.Hex.ofWord 8 got.toNat ++ " is not 0xcafebabe"
  | unknownFrameKind got => "Unknown frame kind 0x" ++ Text.Hex.ofWord 2 got.toNat
  | unexpectedKind expected got => "Expected " ++ expected.name ++ " frame, got " ++ got.name
  | invalidAssignment cause => "Bad Accept payload: " ++ cause.message

def name : WireError → String
  | encryption _ => "Encryption"
  | decryption => "Decryption"
  | invalidKey _ => "InvalidKey"
  | keyDerivation _ => "KeyDerivation"
  | messageTooShort _ _ => "MessageTooShort"
  | badMarker _ => "BadMarker"
  | unknownFrameKind _ => "UnknownFrameKind"
  | unexpectedKind _ _ => "UnexpectedKind"
  | invalidAssignment _ => "InvalidAssignment"

def causes : WireError → List String
  | invalidAssignment cause => [cause.message]
  | _ => []

/-! ## Classes -/

def isCrypto : WireError → Bool
  | encryption _ | decryption | invalidKey _ | keyDerivation _ => true
  | _ => false

def isFormat : WireError → Bool
  | messageTooShort _ _ | badMarker _ | unknownFrameKind _ => true
  | _ => false

def isProtocol : WireError → Bool
  | unexpectedKind _ _ | invalidAssignment _ => true
  | e => e.isFormat

end WireError

end TunnelClient
