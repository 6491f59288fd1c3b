import TunnelClient.Cipher.Aead
import TunnelClient.Wire.Frame
import TunnelClient.Wire.Key

/-!
# Sealed datagrams

Sealed datagrams: a nonce, the encrypted text, and the tag that authenticates
it.  A datagram that does not open gives one error, whatever is wrong with it.
-/

namespace TunnelClient

structure Nonce where
  bytes : List UInt8
  length_eq : bytes.length = Cipher.Aead.nonceLength
  deriving DecidableEq

def Nonce.ofBytes? (bytes : List UInt8) : Option Nonce :=
  if h : bytes.length = Cipher.Aead.nonceLength then some ⟨bytes, h⟩ else none

def Nonce.ofNat (n : Nat) : Nonce :=
  ⟨Cipher.littleOfNat Cipher.Aead.nonceLength n, Cipher.length_littleOfNat ..⟩

namespace Seal

def overhead : Nat := Cipher.Aead.nonceLength + Cipher.Aead.tagLength

def wrap (key : PresharedKey) (nonce : Nonce) (text : List UInt8) : Except WireError Datagram :=
  match Cipher.Aead.encrypt? key.bytes nonce.bytes text with
  | some sealed => .ok (nonce.bytes ++ sealed)
  | none => .error (.encryption "ChaCha20-Poly1305 encryption failed")

def unwrap (key : PresharedKey) (datagram : Datagram) : Except WireError (List UInt8) :=
  if datagram.length < overhead then .error .decryption
  else
    let nonce := datagram.take Cipher.Aead.nonceLength
    match Cipher.Aead.decrypt? key.bytes nonce (datagram.drop Cipher.Aead.nonceLength) with
    | some text => .ok text
    | none => .error .decryption

def wrapFrame (key : PresharedKey) (nonce : Nonce) (f : Frame) : Except WireError Datagram :=
  wrap key nonce f.encode

def unwrapFrame (key : PresharedKey) (datagram : Datagram) : Except WireError Frame :=
  unwrap key datagram >>= Frame.decode

def dump : String := "FrameCipher \x7b algorithm: \"ChaCha20-Poly1305\", .. \x7d"

end Seal

end TunnelClient
