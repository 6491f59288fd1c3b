import Mathlib.Data.List.Induction
import Mathlib.Tactic.SplitIfs
import TunnelClient.Proofs.Wire.Seal

/-!
# The frame codec

The frame codec.  Reading accepts what writing produces and nothing else, and what is no
frame is refused for the first thing that is wrong with it.
-/

namespace TunnelClient

/-! ## Numbers, most significant byte first -/

def natOfBig (bytes : List UInt8) : Nat := bytes.foldl (fun n b => 256 * n + b.toNat) 0

theorem natOfBig_append (bytes : List UInt8) (b : UInt8) :
    natOfBig (bytes ++ [b]) = 256 * natOfBig bytes + b.toNat := by
  rw [natOfBig, List.foldl_append]
  rfl

theorem toNat_word (a b c d : UInt8) :
    ((a.toUInt32 <<< 24) ||| (b.toUInt32 <<< 16) ||| (c.toUInt32 <<< 8) ||| d.toUInt32).toNat =
      natOfBig [a, b, c, d] := by
  have ha := a.toNat_lt
  have hb := b.toNat_lt
  have hc := c.toNat_lt
  have hd := d.toNat_lt
  have low : c.toNat <<< 8 + d.toNat = c.toNat <<< 8 ||| d.toNat :=
    Nat.shiftLeft_add_eq_or_of_lt hd _
  have middle : b.toNat <<< 16 + (c.toNat <<< 8 + d.toNat) =
      b.toNat <<< 16 ||| (c.toNat <<< 8 + d.toNat) :=
    Nat.shiftLeft_add_eq_or_of_lt (by rw [Nat.shiftLeft_eq]; omega) _
  have high : a.toNat <<< 24 + (b.toNat <<< 16 + (c.toNat <<< 8 + d.toNat)) =
      a.toNat <<< 24 ||| (b.toNat <<< 16 + (c.toNat <<< 8 + d.toNat)) :=
    Nat.shiftLeft_add_eq_or_of_lt (by simp only [Nat.shiftLeft_eq]; omega) _
  have unwrapped : ∀ (x : UInt8) (n : Nat), n ≤ 24 →
      x.toNat <<< n % 2 ^ 32 = x.toNat <<< n := by
    intro x n hn
    have hx := x.toNat_lt
    have scale : 2 ^ n ≤ 2 ^ 24 := Nat.pow_le_pow_right (by decide) hn
    rw [Nat.shiftLeft_eq]
    refine Nat.mod_eq_of_lt ?_
    calc x.toNat * 2 ^ n ≤ x.toNat * 2 ^ 24 := Nat.mul_le_mul_left _ scale
      _ < 2 ^ 32 := by omega
  simp only [UInt32.toNat_or, UInt32.toNat_shiftLeft, UInt8.toNat_toUInt32, Nat.or_assoc]
  change a.toNat <<< 24 % 2 ^ 32 ||| (b.toNat <<< 16 % 2 ^ 32 ||| (c.toNat <<< 8 % 2 ^ 32 |||
    d.toNat)) = _
  rw [unwrapped a 24 (by decide), unwrapped b 16 (by decide), unwrapped c 8 (by decide), ← low,
    ← middle, ← high]
  simp only [natOfBig, List.foldl_cons, List.foldl_nil, Nat.shiftLeft_eq]
  omega

private theorem natOfBig_inj {bytes bytes' : List UInt8} (length : bytes.length = bytes'.length)
    (h : natOfBig bytes = natOfBig bytes') : bytes = bytes' := by
  induction bytes using List.reverseRecOn generalizing bytes' with
  | nil => exact (List.eq_nil_of_length_eq_zero length.symm).symm
  | append_singleton bytes b ih =>
      cases bytes' using List.reverseRecOn with
      | nil => simp at length
      | append_singleton bytes' b' =>
          rw [natOfBig_append, natOfBig_append] at h
          have hb := b.toNat_lt
          have hb' := b'.toNat_lt
          have last : b = b' := UInt8.toNat_inj.mp (by omega)
          have rest : bytes = bytes' := ih (by simpa using length) (by omega)
          rw [last, rest]

/-! ## The codec -/

namespace Frame

/-- What is wrong with bytes that are no frame.  Each fault counts only where the ones before it
are absent. -/
inductive FirstFault (bytes : List UInt8) : WireError → Prop
  | short (short : bytes.length < 5) : FirstFault bytes (.messageTooShort 5 bytes.length)
  | marker {got : UInt32} (long : 5 ≤ bytes.length) (value : got.toNat = natOfBig (bytes.take 4))
      (wrong : got ≠ 0xCAFEBABE) : FirstFault bytes (.badMarker got)
  | kind {got : UInt8} (long : 5 ≤ bytes.length) (marked : natOfBig (bytes.take 4) = 0xCAFEBABE)
      (value : bytes[4]? = some got) (unknown : 2 < got) :
      FirstFault bytes (.unknownFrameKind got)

private theorem toNat_bigEndian (a b c d : UInt8) :
    (bigEndian a b c d).toNat = natOfBig [a, b, c, d] :=
  toNat_word a b c d

private theorem bigEndian_eq_marker {a b c d : UInt8} (h : bigEndian a b c d = marker) :
    a = 0xCA ∧ b = 0xFE ∧ c = 0xBA ∧ d = 0xBE := by
  have value : natOfBig [a, b, c, d] = natOfBig [0xCA, 0xFE, 0xBA, 0xBE] := by
    rw [← toNat_bigEndian, h]
    rfl
  have same : [a, b, c, d] = [0xCA, 0xFE, 0xBA, 0xBE] := natOfBig_inj rfl value
  simpa using same

end Frame

namespace FrameKind

private theorem eq_byte_of_ofByte? {b : UInt8} {kind : FrameKind} (h : ofByte? b = some kind) :
    b = kind.byte := by
  simp only [ofByte?] at h
  split_ifs at h with h₀ h₁ h₂ <;> cases h <;> assumption

theorem ofByte?_eq_none_iff {b : UInt8} : ofByte? b = none ↔ 2 < b := by
  simp only [ofByte?, UInt8.lt_iff_toNat_lt, ← UInt8.toNat_inj]
  split_ifs <;> simp_all
  omega

end FrameKind

namespace Frame

theorem eq_encode_of_decode {bytes : List UInt8} {f : Frame} (h : decode bytes = .ok f) :
    bytes = f.encode := by
  match bytes with
  | a :: b :: c :: d :: k :: payload =>
      rw [decode] at h
      split at h
      · cases h
      · rename_i marked
        obtain ⟨rfl, rfl, rfl, rfl⟩ := bigEndian_eq_marker (not_not.mp marked)
        split at h
        · rename_i kind hkind
          cases h
          rw [encode, FrameKind.eq_byte_of_ofByte? hkind]
        · cases h
  | [] | [_] | [_, _] | [_, _, _] | [_, _, _, _] => cases h

theorem decode_eq_ok_iff {bytes : List UInt8} {f : Frame} :
    decode bytes = .ok f ↔ bytes = f.encode :=
  ⟨eq_encode_of_decode, fun h => h ▸ decode_encode f⟩

theorem firstFault_of_decode {bytes : List UInt8} {e : WireError} (h : decode bytes = .error e) :
    FirstFault bytes e := by
  match bytes with
  | a :: b :: c :: d :: k :: payload =>
      rw [decode] at h
      split at h
      · rename_i wrong
        cases h
        exact .marker (by simp) (toNat_bigEndian a b c d) wrong
      · rename_i marked
        have value : natOfBig [a, b, c, d] = 0xCAFEBABE := by
          rw [← toNat_bigEndian, not_not.mp marked]
          rfl
        split at h
        · cases h
        · rename_i unknown
          cases h
          exact .kind (by simp) value rfl (FrameKind.ofByte?_eq_none_iff.mp unknown)
  | [] | [_] | [_, _] | [_, _, _] | [_, _, _, _] =>
      cases h
      exact .short (by simp)

theorem decode_of_firstFault {bytes : List UInt8} {e : WireError} (h : FirstFault bytes e) :
    decode bytes = .error e := by
  match bytes, h with
  | a :: b :: c :: d :: k :: payload, .short short =>
      simp only [List.length_cons] at short
      omega
  | a :: b :: c :: d :: k :: payload, .marker long value wrong =>
      have got := UInt32.toNat_inj.mp (value.trans (toNat_bigEndian a b c d).symm)
      rw [decode, ← got]
      exact if_pos wrong
  | a :: b :: c :: d :: k :: payload, .kind long marked value unknown =>
      have word : bigEndian a b c d = marker :=
        UInt32.toNat_inj.mp ((toNat_bigEndian a b c d).trans marked)
      obtain rfl : k = _ := Option.some.inj value
      rw [decode, if_neg (not_not_intro word), FrameKind.ofByte?_eq_none_iff.mpr unknown]
  | [], h | [_], h | [_, _], h | [_, _, _], h | [_, _, _, _], h =>
      cases h with
      | short short => rfl
      | marker long | kind long => simp at long

theorem decode_eq_error_iff {bytes : List UInt8} {e : WireError} :
    decode bytes = .error e ↔ FirstFault bytes e :=
  ⟨firstFault_of_decode, decode_of_firstFault⟩

/-- A text is read as a frame exactly if it is what the frame is written as, and any other text is
refused for its first fault.  So no two frames are written alike, and what is read is what would be
written again. -/
theorem codec_exact :
    (∀ bytes kind payload, decode bytes = .ok ⟨kind, payload⟩ ↔ bytes = encode ⟨kind, payload⟩) ∧
      (∀ bytes e, decode bytes = .error e ↔ FirstFault bytes e) ∧
      Function.Injective encode ∧
      ∀ bytes f, decode bytes = .ok f → f.encode = bytes := by
  refine ⟨fun _ _ _ => decode_eq_ok_iff, fun _ _ => decode_eq_error_iff, ?_, ?_⟩
  · intro f f' same
    have read : decode f.encode = .ok f' := by
      rw [same, decode_encode]
    rw [decode_encode] at read
    exact Except.ok.inj read
  · intro bytes f read
    exact (eq_encode_of_decode read).symm

theorem codec_packet :
    decode [0xCA, 0xFE, 0xBA, 0xBE, 2, 0x45] = .ok ⟨.data, [0x45]⟩ ∧
      encode ⟨.data, [0x45]⟩ = [0xCA, 0xFE, 0xBA, 0xBE, 2, 0x45] ∧
      decode [0xCA, 0xFE, 0xBA, 0xBF, 7] = .error (.badMarker 0xCAFEBABF) := by
  have read : decode [0xCA, 0xFE, 0xBA, 0xBE, 2, 0x45] = .ok ⟨.data, [0x45]⟩ := by decide
  have fault : FirstFault [0xCA, 0xFE, 0xBA, 0xBF, 7] (.badMarker 0xCAFEBABF) :=
    .marker (by decide) (by decide) (by decide)
  exact ⟨read, codec_exact.2.2.2 _ _ read, (codec_exact.2.1 _ _).mpr fault⟩

end Frame

end TunnelClient
