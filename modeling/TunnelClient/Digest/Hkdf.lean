import TunnelClient.Digest.Sha256

/-!
# HMAC and HKDF

HMAC (RFC 2104) and the key derivation HKDF (RFC 5869), both with SHA-256.
-/

namespace TunnelClient.Digest

def hmacBlock (key : List UInt8) : List UInt8 :=
  let short := if 64 < key.length then Sha256.digest key else key
  short ++ List.replicate (64 - short.length) 0

def hmac (key message : List UInt8) : List UInt8 :=
  let block := hmacBlock key
  let inner := Sha256.digest (block.map (· ^^^ 0x36) ++ message)
  Sha256.digest (block.map (· ^^^ 0x5c) ++ inner)

@[simp] theorem length_hmac (key message : List UInt8) : (hmac key message).length = 32 := by
  simp [hmac]

namespace Hkdf

def extract (salt secret : List UInt8) : List UInt8 := hmac salt secret

def expandFrom (key info : List UInt8) : Nat → Nat → List UInt8 → List UInt8
  | 0, _, _ => []
  | count + 1, index, previous =>
    let block := hmac key (previous ++ info ++ [UInt8.ofNat index])
    block ++ expandFrom key info count (index + 1) block

def expand (key info : List UInt8) (length : Nat) : List UInt8 :=
  (expandFrom key info ((length + 31) / 32) 1 []).take length

def derive (salt secret info : List UInt8) (length : Nat) : List UInt8 :=
  expand (extract salt secret) info length

theorem length_expandFrom (key info : List UInt8) (count index : Nat) (previous : List UInt8) :
    (expandFrom key info count index previous).length = 32 * count := by
  induction count generalizing index previous with
  | zero => rfl
  | succ count ih =>
    simp only [expandFrom, List.length_append, length_hmac, ih]
    omega

theorem length_derive (salt secret info : List UInt8) (length : Nat) :
    (derive salt secret info length).length = length := by
  simp only [derive, expand, List.length_take, length_expandFrom]
  omega

end Hkdf

end TunnelClient.Digest
