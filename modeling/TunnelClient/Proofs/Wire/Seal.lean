import TunnelClient.Wire.Seal

/-!
# Sealing and opening

Sealing and opening.  What was sealed under a key opens under it and is the text that
went in; a frame that is read back is the frame that was written.
-/

namespace TunnelClient

/-! ## The stream cipher -/

namespace Cipher.ChaCha20

theorem length_flatMap_of_length {α : Type} {piece : α → List UInt8} {n : Nat}
    (each : ∀ a, (piece a).length = n) (items : List α) :
    (items.flatMap piece).length = n * items.length := by
  induction items with
  | nil => rfl
  | cons a items ih =>
      rw [List.flatMap_cons, List.length_append, each, ih, List.length_cons, Nat.mul_succ,
        Nat.add_comm]

theorem length_block (key nonce : List UInt8) (counter : UInt32) :
    (block key nonce counter).length = 64 := by
  rw [block, length_flatMap_of_length fun w : UInt32 => length_littleOfNat 4 w.toNat,
    Vector.length_toList]

theorem length_keystream (key nonce : List UInt8) (length : Nat) :
    (keystream key nonce length).length = 64 * ((length + 63) / 64) := by
  rw [keystream,
    length_flatMap_of_length fun i : Nat => length_block key nonce (UInt32.ofNat (i + 1)),
    List.length_range]

theorem length_crypt (key nonce text : List UInt8) :
    (crypt key nonce text).length = text.length := by
  rw [crypt, List.length_zipWith, length_keystream]
  omega

private theorem zipWith_xor_twice {text stream : List UInt8} (h : text.length ≤ stream.length) :
    List.zipWith (· ^^^ ·) (List.zipWith (· ^^^ ·) text stream) stream = text := by
  induction text generalizing stream with
  | nil => rfl
  | cons b text ih =>
      cases stream with
      | nil => simp at h
      | cons k stream =>
          have rest := ih (Nat.le_of_succ_le_succ h)
          simp only [List.zipWith_cons_cons, rest, UInt8.xor_assoc, UInt8.xor_self, UInt8.xor_zero]

theorem crypt_crypt (key nonce text : List UInt8) :
    crypt key nonce (crypt key nonce text) = text := by
  have enough : text.length ≤ (keystream key nonce text.length).length := by
    rw [length_keystream]
    omega
  rw [crypt, length_crypt, crypt]
  exact zipWith_xor_twice enough

end Cipher.ChaCha20

/-! ## The sealed text -/

namespace Cipher.Aead

variable {key nonce text sealed : List UInt8}

theorem length_tag (key nonce ciphertext : List UInt8) :
    (tag key nonce ciphertext).length = tagLength :=
  length_littleOfNat ..

theorem encrypt?_eq_some (h : encrypt? key nonce text = some sealed) :
    fits text = true ∧
      sealed = ChaCha20.crypt key nonce text ++ tag key nonce (ChaCha20.crypt key nonce text) := by
  rw [encrypt?] at h
  split at h
  · rename_i short
    exact ⟨short, (Option.some.inj h).symm⟩
  · cases h

theorem length_of_encrypt? (h : encrypt? key nonce text = some sealed) :
    sealed.length = text.length + tagLength := by
  rw [(encrypt?_eq_some h).2, List.length_append, ChaCha20.length_crypt, length_tag]

private theorem decrypt?_of_encrypt? (h : encrypt? key nonce text = some sealed) :
    decrypt? key nonce sealed = some text := by
  obtain ⟨short, rfl⟩ := encrypt?_eq_some h
  have split : (ChaCha20.crypt key nonce text ++
      tag key nonce (ChaCha20.crypt key nonce text)).length - tagLength =
      (ChaCha20.crypt key nonce text).length := by
    rw [List.length_append, length_tag, Nat.add_sub_cancel]
  have fits' : fits (ChaCha20.crypt key nonce text) = true := by
    rw [fits, ChaCha20.length_crypt]
    exact short
  rw [decrypt?, if_neg, split, List.take_left, List.drop_left]
  · simp only [fits', beq_self_eq_true, Bool.and_self, if_true, ChaCha20.crypt_crypt]
  · rw [List.length_append, length_tag]
    omega

end Cipher.Aead

/-! ## Datagrams -/

namespace Seal

variable {key : PresharedKey} {nonce : Nonce} {text : List UInt8} {d : Datagram}

theorem wrap_eq_ok (h : wrap key nonce text = .ok d) :
    ∃ sealed, Cipher.Aead.encrypt? key.bytes nonce.bytes text = some sealed ∧
      d = nonce.bytes ++ sealed := by
  rw [wrap] at h
  split at h
  · rename_i sealed hsealed
    cases h
    exact ⟨sealed, hsealed, rfl⟩
  · cases h

theorem exists_wrap (key : PresharedKey) (nonce : Nonce) (short : Cipher.Aead.fits text = true) :
    ∃ d, wrap key nonce text = .ok d := by
  simp only [wrap, Cipher.Aead.encrypt?, short, if_true]
  exact ⟨_, rfl⟩

theorem length_of_wrap (h : wrap key nonce text = .ok d) :
    d.length = text.length + overhead := by
  obtain ⟨sealed, hsealed, rfl⟩ := wrap_eq_ok h
  rw [List.length_append, nonce.length_eq, Cipher.Aead.length_of_encrypt? hsealed, overhead]
  omega

theorem unwrap_of_wrap (h : wrap key nonce text = .ok d) : unwrap key d = .ok text := by
  have length := length_of_wrap h
  obtain ⟨sealed, hsealed, rfl⟩ := wrap_eq_ok h
  have opened := Cipher.Aead.decrypt?_of_encrypt? hsealed
  rw [unwrap, if_neg (by omega), ← nonce.length_eq, List.take_left, List.drop_left]
  simp only [opened]

end Seal

/-! ## Frames -/

namespace FrameKind

@[simp] theorem ofByte?_byte (kind : FrameKind) : ofByte? kind.byte = some kind := by
  cases kind <;> rfl

end FrameKind

namespace Frame

theorem decode_encode (f : Frame) : decode f.encode = .ok f := by
  have marked : bigEndian 0xCA 0xFE 0xBA 0xBE = marker := by decide
  rw [encode, decode, if_neg (not_not_intro marked), FrameKind.ofByte?_byte]

@[simp] theorem length_encode (f : Frame) : f.encode.length = f.payload.length + headerLength := rfl

end Frame

end TunnelClient
