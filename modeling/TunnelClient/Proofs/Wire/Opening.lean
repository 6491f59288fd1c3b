import Mathlib.Data.List.Basic
import TunnelClient.Proofs.Wire.Seal

/-!
# What opens

What opens.  A datagram opens to a text exactly if sealing the text under the datagram's
own nonce gives that datagram again, so that a nonce and a text leave no choice for the
rest, and a tag none for another.
-/

namespace TunnelClient

/-! ## The keystream by positions -/

namespace Cipher.ChaCha20

theorem getElem?_flatMap_of_length {α : Type} {piece : α → List UInt8} {n : Nat}
    (each : ∀ a, (piece a).length = n) (positive : 0 < n) (items : List α) (i : Nat) :
    (items.flatMap piece)[i]? = items[i / n]?.bind fun a => (piece a)[i % n]? := by
  induction items generalizing i with
  | nil => rfl
  | cons a items ih =>
      rw [List.flatMap_cons]
      by_cases first : i < n
      · rw [List.getElem?_append_left (by rw [each]; exact first), Nat.div_eq_of_lt first,
          Nat.mod_eq_of_lt first]
        rfl
      · have beyond : n ≤ i := Nat.le_of_not_lt first
        rw [List.getElem?_append_right (by rw [each]; exact beyond), each, ih,
          Nat.mod_eq_sub_mod beyond, Nat.div_eq_sub_div positive beyond]
        rfl

/-- The byte of the keystream at a position.  Block 0 makes the tag's key, so the text starts with
block 1. -/
def keyByte (key nonce : List UInt8) (i : Nat) : UInt8 :=
  (block key nonce (UInt32.ofNat (i / 64 + 1))).getD (i % 64) 0

private theorem getElem?_keystream {key nonce : List UInt8} {length i : Nat} (h : i < length) :
    (keystream key nonce length)[i]? = some (keyByte key nonce i) := by
  have block' := length_block key nonce (UInt32.ofNat (i / 64 + 1))
  rw [keystream, getElem?_flatMap_of_length (fun i => length_block ..) (by decide),
    List.getElem?_range (by omega)]
  simp only [Option.bind_some, keyByte, List.getD_eq_getElem?_getD]
  rw [List.getElem?_eq_getElem (by omega)]
  rfl

private theorem crypt_eq_mapIdx (key nonce text : List UInt8) :
    crypt key nonce text = text.mapIdx fun i b => b ^^^ keyByte key nonce i := by
  apply List.ext_getElem?
  intro i
  rw [crypt, List.getElem?_zipWith, List.getElem?_mapIdx]
  by_cases inside : i < text.length
  · rw [getElem?_keystream inside, List.getElem?_eq_getElem inside]
    rfl
  · rw [List.getElem?_eq_none (Nat.le_of_not_lt inside)]
    rfl

end Cipher.ChaCha20

/-! ## Opening and sealing -/

namespace Cipher.Aead

variable {key nonce text sealed : List UInt8}

private theorem fits_crypt (key nonce text : List UInt8) :
    fits (ChaCha20.crypt key nonce text) = fits text := by
  rw [fits, ChaCha20.length_crypt, fits]

private theorem encrypt?_of_decrypt? (h : decrypt? key nonce sealed = some text) :
    encrypt? key nonce text = some sealed := by
  simp only [decrypt?] at h
  split at h
  · cases h
  · split at h
    · rename_i checked
      obtain ⟨short, agrees⟩ := Bool.and_eq_true_iff.mp checked
      cases h
      rw [encrypt?, fits_crypt, if_pos short]
      simp only [ChaCha20.crypt_crypt, ← eq_of_beq agrees, List.take_append_drop]
    · cases h

end Cipher.Aead

namespace Seal

variable {key : PresharedKey} {nonce : Nonce} {text : List UInt8} {d : Datagram}

theorem wrap_eq_ok_iff :
    wrap key nonce text = .ok d ↔
      Cipher.Aead.fits text = true ∧
        d = nonce.bytes ++ Cipher.ChaCha20.crypt key.bytes nonce.bytes text ++
          Cipher.Aead.tag key.bytes nonce.bytes
            (Cipher.ChaCha20.crypt key.bytes nonce.bytes text) := by
  constructor
  · intro h
    obtain ⟨sealed, hsealed, rfl⟩ := wrap_eq_ok h
    obtain ⟨short, rfl⟩ := Cipher.Aead.encrypt?_eq_some hsealed
    exact ⟨short, (List.append_assoc ..).symm⟩
  · rintro ⟨short, rfl⟩
    simp only [wrap, Cipher.Aead.encrypt?, short, if_true, List.append_assoc]

theorem unwrap_eq_ok_iff :
    unwrap key d = .ok text ↔
      ∃ nonce : Nonce, nonce.bytes = d.take Cipher.Aead.nonceLength ∧
        wrap key nonce text = .ok d := by
  constructor
  · intro h
    simp only [unwrap] at h
    split at h
    · cases h
    · rename_i long
      split at h
      · rename_i opened
        cases h
        have length : (d.take Cipher.Aead.nonceLength).length = Cipher.Aead.nonceLength := by
          rw [overhead] at long
          rw [List.length_take]
          omega
        refine ⟨⟨_, length⟩, rfl, ?_⟩
        rw [wrap, Cipher.Aead.encrypt?_of_decrypt? opened]
        exact congrArg Except.ok (List.take_append_drop ..)
      · cases h
  · rintro ⟨nonce, -, h⟩
    exact unwrap_of_wrap h

theorem unwrap_cases (key : PresharedKey) (d : Datagram) :
    (∃ text, unwrap key d = .ok text) ∨ unwrap key d = .error .decryption := by
  simp only [unwrap]
  repeat' split
  · exact .inr rfl
  · exact .inl ⟨_, rfl⟩
  · exact .inr rfl

private theorem parts_of_unwrap (h : unwrap key d = .ok text) :
    ∃ (nonce : Nonce) (ciphertext : List UInt8),
      d = nonce.bytes ++ ciphertext ++ Cipher.Aead.tag key.bytes nonce.bytes ciphertext := by
  obtain ⟨nonce, -, sealed⟩ := unwrap_eq_ok_iff.mp h
  exact ⟨nonce, _, (wrap_eq_ok_iff.mp sealed).2⟩

theorem length_of_unwrap (h : unwrap key d = .ok text) : d.length = text.length + 28 := by
  obtain ⟨nonce, -, sealed⟩ := unwrap_eq_ok_iff.mp h
  exact length_of_wrap sealed

private theorem unwrap_of_short (short : d.length < 28) : unwrap key d = .error .decryption :=
  if_pos short

private theorem eq_of_unwrap {d' : Datagram} (nonces : d.take 12 = d'.take 12)
    (h : unwrap key d = .ok text) (h' : unwrap key d' = .ok text) : d = d' := by
  obtain ⟨nonce, prefixed, sealed⟩ := unwrap_eq_ok_iff.mp h
  obtain ⟨nonce', prefixed', sealed'⟩ := unwrap_eq_ok_iff.mp h'
  have same : nonce.bytes = nonce'.bytes := prefixed.trans (nonces.trans prefixed'.symm)
  rw [(wrap_eq_ok_iff.mp sealed).2, (wrap_eq_ok_iff.mp sealed').2, same]

private theorem unwrap_of_other_tag {tag : List UInt8} (h : unwrap key d = .ok text)
    (length : tag.length = 16) (other : tag ≠ d.drop (d.length - 16)) :
    unwrap key (d.take (d.length - 16) ++ tag) = .error .decryption := by
  obtain ⟨text', opened⟩ | refused := unwrap_cases key (d.take (d.length - 16) ++ tag)
  · obtain ⟨nonce, ciphertext, layout⟩ := parts_of_unwrap h
    obtain ⟨nonce', ciphertext', layout'⟩ := parts_of_unwrap opened
    -- Both tags are 16 bytes long, so what stands before them is the same nonce and ciphertext.
    have tagged := Cipher.Aead.length_tag key.bytes nonce.bytes ciphertext
    have tagged' := Cipher.Aead.length_tag key.bytes nonce'.bytes ciphertext'
    have front : d.length - 16 = (nonce.bytes ++ ciphertext).length := by
      rw [layout, List.length_append, tagged]
      exact Nat.add_sub_cancel ..
    rw [front, layout, List.drop_left] at other
    rw [front, layout, List.take_left] at layout'
    obtain ⟨sealed, rfl⟩ := List.append_inj' layout' (length.trans tagged'.symm)
    obtain ⟨same, rfl⟩ := List.append_inj sealed (nonce.length_eq.trans nonce'.length_eq.symm)
    rw [same] at other
    exact absurd rfl other
  · exact refused

/-- A datagram opens to a text exactly if it is the text sealed under the nonce that the datagram
starts with: nonce, ciphertext and tag, 28 bytes more than the text.  So what was sealed opens
whatever nonce was drawn, and neither a shorter datagram opens, nor another one with that nonce to
that text, nor one with another tag. -/
theorem unwrap_exact (key : PresharedKey) :
    (∀ d text, unwrap key d = .ok text ↔
      ∃ nonce : Nonce, nonce.bytes = d.take 12 ∧ wrap key nonce text = .ok d) ∧
    (∀ (nonce : Nonce) text, Cipher.Aead.fits text = true → ∃ d ciphertext,
      wrap key nonce text = .ok d ∧ unwrap key d = .ok text ∧
      ciphertext = text.mapIdx (fun i b => b ^^^ Cipher.ChaCha20.keyByte key.bytes nonce.bytes i) ∧
      d = nonce.bytes ++ ciphertext ++ Cipher.Aead.tag key.bytes nonce.bytes ciphertext ∧
      d.length = text.length + 28) ∧
    (∀ d, d.length < 28 → unwrap key d = .error .decryption) ∧
    (∀ d d' text, d.take 12 = d'.take 12 → unwrap key d = .ok text →
      unwrap key d' = .ok text → d = d') ∧
    ∀ d text tag, unwrap key d = .ok text → tag.length = 16 → tag ≠ d.drop (d.length - 16) →
      unwrap key (d.take (d.length - 16) ++ tag) = .error .decryption := by
  refine ⟨fun _ _ => unwrap_eq_ok_iff, ?_, fun _ => unwrap_of_short, fun _ _ _ => eq_of_unwrap,
    fun _ _ _ => unwrap_of_other_tag⟩
  intro nonce text short
  obtain ⟨d, sealed⟩ := exists_wrap key nonce short
  obtain ⟨-, layout⟩ := wrap_eq_ok_iff.mp sealed
  exact ⟨d, _, sealed, unwrap_of_wrap sealed, Cipher.ChaCha20.crypt_eq_mapIdx .., layout,
    length_of_wrap sealed⟩

def sealedPair : Datagram :=
  [1, 0, 0, 0, 0, 0, 0, 0, 0, 0, 0, 0, 71, 242, 97, 55, 179, 188, 6, 231, 30, 41, 112, 83, 162, 30,
   200, 34, 171, 110]

theorem sealedPair_opens :
    unwrap ⟨List.replicate 32 0, rfl⟩ sealedPair = .ok [1, 2] ∧
      List.replicate 16 0 ≠ sealedPair.drop (sealedPair.length - 16) ∧
      unwrap ⟨List.replicate 32 0, rfl⟩
        (sealedPair.take (sealedPair.length - 16) ++ List.replicate 16 0) = .error .decryption := by
  have opens : unwrap ⟨List.replicate 32 0, rfl⟩ sealedPair = .ok [1, 2] := by decide +kernel
  have other : List.replicate 16 0 ≠ sealedPair.drop (sealedPair.length - 16) := by decide
  exact ⟨opens, other, (unwrap_exact _).2.2.2.2 _ _ _ opens List.length_replicate other⟩

end Seal

end TunnelClient
