import TunnelClient.Cipher.ChaCha20
import TunnelClient.Cipher.Poly1305

/-!
# ChaCha20-Poly1305

ChaCha20-Poly1305 of RFC 8439 with empty associated data: the ciphertext is
followed by a 16-byte tag over it and its length.  Nothing is decrypted before
the tag has been checked.
-/

namespace TunnelClient.Cipher.Aead

def nonceLength : Nat := 12

def tagLength : Nat := 16

/-- The block counter has 32 bits and block 0 makes the tag's key. -/
def maxBlocks : Nat := UInt32.size - 1

def fits (text : List UInt8) : Bool := text.length / 64 < maxBlocks

def tagKey (key nonce : List UInt8) : List UInt8 := (ChaCha20.block key nonce 0).take 32

def padding (text : List UInt8) : List UInt8 := List.replicate ((16 - text.length % 16) % 16) 0

def authenticated (ciphertext : List UInt8) : List UInt8 :=
  ciphertext ++ padding ciphertext ++ littleOfNat 8 0 ++ littleOfNat 8 ciphertext.length

def tag (key nonce ciphertext : List UInt8) : List UInt8 :=
  Poly1305.tag (tagKey key nonce) (authenticated ciphertext)

def encrypt? (key nonce plaintext : List UInt8) : Option (List UInt8) :=
  if fits plaintext then
    let ciphertext := ChaCha20.crypt key nonce plaintext
    some (ciphertext ++ tag key nonce ciphertext)
  else none

def decrypt? (key nonce sealed : List UInt8) : Option (List UInt8) :=
  if sealed.length < tagLength then none
  else
    let ciphertext := sealed.take (sealed.length - tagLength)
    let received := sealed.drop (sealed.length - tagLength)
    if fits ciphertext && received == tag key nonce ciphertext then
      some (ChaCha20.crypt key nonce ciphertext)
    else none

end TunnelClient.Cipher.Aead
