import TunnelClient.Cipher.Word

/-!
# Poly1305

The Poly1305 one-time authenticator of RFC 8439.
-/

namespace TunnelClient.Cipher.Poly1305

def prime : Nat := Nat.pow 2 130 - 5

def clampMask : Nat := 0x0ffffffc0ffffffc0ffffffc0fffffff

def blockValue (block : List UInt8) : Nat := natOfLittle (block ++ [1])

def accumulate (r : Nat) (message : List (List UInt8)) : Nat :=
  message.foldl (fun acc block => (acc + blockValue block) * r % prime) 0

def tag (key message : List UInt8) : List UInt8 :=
  let r := natOfLittle (key.take 16) &&& clampMask
  let s := natOfLittle (key.drop 16)
  littleOfNat 16 (accumulate r (blocks 15 message) + s)

end TunnelClient.Cipher.Poly1305
