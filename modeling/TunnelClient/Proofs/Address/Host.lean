import Mathlib.Algebra.GroupWithZero.Nat
import TunnelClient.Address.Tunnel
import TunnelClient.Proofs.Wire.Codec

/-!
# Addresses of hosts

Addresses, their octets and their networks.  The addresses that can be granted are those
of a single host: all but four ranges.
-/

namespace TunnelClient

theorem and_high_bits {n width low : Nat} (bound : n < 2 ^ width) (le : low ≤ width) :
    n &&& (2 ^ width - 2 ^ low) = 2 ^ low * (n / 2 ^ low) := by
  have positive : 0 < 2 ^ low := Nat.two_pow_pos low
  have smaller : 2 ^ low - 1 < 2 ^ width := by
    have := Nat.pow_le_pow_right (by decide : 0 < 2) le
    omega
  apply Nat.eq_of_testBit_eq
  intro i
  have high : (2 ^ width - 2 ^ low).testBit i = (decide (i < width) && !decide (i < low)) := by
    have := Nat.testBit_two_pow_sub_succ smaller i
    rw [Nat.sub_add_cancel positive, Nat.testBit_two_pow_sub_one] at this
    exact this
  rw [Nat.testBit_and, high, Nat.testBit_two_pow_mul, Nat.testBit_div_two_pow]
  by_cases inside : low ≤ i
  · by_cases above : i < width
    · simp [inside, above, Nat.not_lt.mpr inside]
    · have clear : n.testBit i = false :=
        Nat.testBit_lt_two_pow (Nat.lt_of_lt_of_le bound
          (Nat.pow_le_pow_right (by decide) (Nat.le_of_not_lt above)))
      simp [inside, clear]
  · simp [inside, Nat.lt_of_not_le inside]

namespace Ipv4

/-! ## Octets -/

theorem toNat_bits_ofOctets (a b c d : UInt8) :
    (ofOctets a b c d).bits.toNat = natOfBig [a, b, c, d] :=
  toNat_word a b c d

theorem toNat_octet (a : Ipv4) (shift : UInt32) :
    (a.octet shift).toNat = a.bits.toNat / 2 ^ (shift.toNat % 32) % 256 := by
  rw [octet, UInt32.toNat_toUInt8, UInt32.toNat_shiftRight, Nat.shiftRight_eq_div_pow]

theorem octets_ofOctets (a b c d : UInt8) : (ofOctets a b c d).octets = [a, b, c, d] := by
  have value := toNat_bits_ofOctets a b c d
  simp only [natOfBig, List.foldl_cons, List.foldl_nil] at value
  have ha := a.toNat_lt
  have hb := b.toNat_lt
  have hc := c.toNat_lt
  have hd := d.toNat_lt
  simp only [octets, List.cons.injEq, ← UInt8.toNat_inj, toNat_octet, value, and_true]
  refine ⟨?_, ?_, ?_, ?_⟩
  · change _ / 2 ^ 24 % 256 = _
    omega
  · change _ / 2 ^ 16 % 256 = _
    omega
  · change _ / 2 ^ 8 % 256 = _
    omega
  · change _ / 2 ^ 0 % 256 = _
    omega

theorem ofBytes?_octets (a : Ipv4) : ofBytes? a.octets = some a := by
  have bound := a.bits.toNat_lt
  have value : (ofOctets (a.octet 24) (a.octet 16) (a.octet 8) (a.octet 0)).bits = a.bits := by
    rw [← UInt32.toNat_inj, toNat_bits_ofOctets]
    simp only [natOfBig, List.foldl_cons, List.foldl_nil, toNat_octet]
    change 256 * (256 * (256 * (256 * 0 + a.bits.toNat / 2 ^ 24 % 256) +
      a.bits.toNat / 2 ^ 16 % 256) + a.bits.toNat / 2 ^ 8 % 256) +
      a.bits.toNat / 2 ^ 0 % 256 = a.bits.toNat
    omega
  exact congrArg some (congrArg Ipv4.mk value)

theorem ofBytes?_eq_some_iff {bytes : List UInt8} {a : Ipv4} :
    ofBytes? bytes = some a ↔ bytes = a.octets := by
  constructor
  · intro h
    match bytes with
    | [p, q, r, s] =>
        cases h
        exact (octets_ofOctets p q r s).symm
    | [] | [_] | [_, _] | [_, _, _] | _ :: _ :: _ :: _ :: _ :: _ => cases h
  · rintro rfl
    exact ofBytes?_octets a

theorem ofBytes?_eq_none_iff {bytes : List UInt8} : ofBytes? bytes = none ↔ bytes.length ≠ 4 := by
  match bytes with
  | [p, q, r, s] => simp [ofBytes?]
  | [] | [_] | [_, _] | [_, _, _] | _ :: _ :: _ :: _ :: _ :: _ => simp [ofBytes?]

/-! ## Networks -/

private theorem toNat_mask {length : Nat} (positive : 0 < length) (le : length ≤ 32) :
    (mask length).toNat = 2 ^ 32 - 2 ^ (32 - length) := by
  have all : ∀ n < 33, 0 < n → (mask n).toNat = 2 ^ 32 - 2 ^ (32 - n) := by decide
  exact all length (Nat.lt_succ_of_le le) positive

theorem sameNetwork_iff {length : Nat} {a b : Ipv4} (positive : 0 < length) (le : length ≤ 32) :
    a.sameNetwork length b = true ↔
      a.bits.toNat / 2 ^ (32 - length) = b.bits.toNat / 2 ^ (32 - length) := by
  have scale : 0 < 2 ^ (32 - length) := Nat.two_pow_pos _
  rw [sameNetwork, beq_iff_eq, ← UInt32.toNat_inj, UInt32.toNat_and, UInt32.toNat_and,
    toNat_mask positive le, and_high_bits a.bits.toNat_lt (by omega),
    and_high_bits b.bits.toNat_lt (by omega)]
  exact ⟨Nat.eq_of_mul_eq_mul_left scale, congrArg _⟩

/-- An address of a single host: neither 0.0.0.0 nor 255.255.255.255, and neither in 224.0.0.0/4 nor
in 127.0.0.0/8. -/
structure IsHost (a : Ipv4) : Prop where
  specified : a ≠ ofOctets 0 0 0 0
  single : a ≠ ofOctets 255 255 255 255
  unicast : a.sameNetwork 4 (ofOctets 224 0 0 0) = false
  remote : a.sameNetwork 8 (ofOctets 127 0 0 0) = false

private theorem isMulticast_eq (a : Ipv4) :
    a.isMulticast = a.sameNetwork 4 (ofOctets 224 0 0 0) := by
  rw [Bool.eq_iff_iff, sameNetwork_iff (by decide) (by decide), isMulticast, beq_iff_eq,
    ← UInt8.toNat_inj, UInt8.toNat_and]
  have octet : (a.octet 24).toNat = a.bits.toNat / 2 ^ 24 % 256 := toNat_octet a 24
  have high : (a.octet 24).toNat &&& (2 ^ 8 - 2 ^ 4) = 2 ^ 4 * ((a.octet 24).toNat / 2 ^ 4) :=
    and_high_bits (a.octet 24).toNat_lt (by decide)
  have bound := a.bits.toNat_lt
  change (a.octet 24).toNat &&& (2 ^ 8 - 2 ^ 4) = 224 ↔ a.bits.toNat / 2 ^ 28 = 14
  rw [high, octet]
  omega

private theorem isLoopback_eq (a : Ipv4) : a.isLoopback = a.sameNetwork 8 (ofOctets 127 0 0 0) := by
  rw [Bool.eq_iff_iff, sameNetwork_iff (by decide) (by decide), isLoopback, beq_iff_eq,
    ← UInt8.toNat_inj]
  have octet : (a.octet 24).toNat = a.bits.toNat / 2 ^ 24 % 256 := toNat_octet a 24
  have bound := a.bits.toNat_lt
  change (a.octet 24).toNat = 127 ↔ a.bits.toNat / 2 ^ 24 = 127
  rw [octet]
  omega

theorem isUsable_iff {a : Ipv4} : a.isUsable = true ↔ a.IsHost := by
  have zero : unspecified = ofOctets 0 0 0 0 := by decide
  have ones : broadcast = ofOctets 255 255 255 255 := by decide
  rw [isUsable, isMulticast_eq, isLoopback_eq, zero, ones]
  simp only [Bool.and_eq_true, bne_iff_ne, Bool.not_eq_true', and_assoc]
  exact ⟨fun ⟨specified, single, unicast, remote⟩ => ⟨specified, single, unicast, remote⟩,
    fun ⟨specified, single, unicast, remote⟩ => ⟨specified, single, unicast, remote⟩⟩

end Ipv4

end TunnelClient
