import TunnelClient.Digest.Hkdf
import TunnelClient.Text.Base64
import TunnelClient.Text.Blank
import TunnelClient.Text.Utf8
import TunnelClient.Wire.Error

/-!
# The preshared key

The key that client and peer share: 32 bytes, given as base64 or derived from a
passphrase.
-/

namespace TunnelClient

structure PresharedKey where
  bytes : List UInt8
  length_eq : bytes.length = 32
  deriving DecidableEq

namespace PresharedKey

def ofBytes? (bytes : List UInt8) : Option PresharedKey :=
  if h : bytes.length = 32 then some ⟨bytes, h⟩ else none

def toBase64 (key : PresharedKey) : String := String.ofList (Text.Base64.encode key.bytes)

def ofBase64 (text : String) : Except WireError PresharedKey :=
  match Text.Base64.decode? (Text.trimChars text.toList) with
  | none => .error (.invalidKey "not valid base64")
  | some bytes =>
    match ofBytes? bytes with
    | some key => .ok key
    | none =>
      let n := bytes.length
      .error (.invalidKey s!"expected 32 bytes, got {n}")

def salt : List UInt8 := Text.Utf8.encode "burrow-v1"

def purpose : List UInt8 := Text.Utf8.encode "burrow-preshared-key"

def ofPassphrase (text : String) : Except WireError PresharedKey :=
  if text.isEmpty then .error (.invalidKey "passphrase is empty")
  else
    .ok ⟨Digest.Hkdf.derive salt (Text.Utf8.encode text) purpose 32, Digest.Hkdf.length_derive ..⟩

def dump (_ : PresharedKey) : String := "PresharedKey(..)"

end PresharedKey

end TunnelClient
