import TunnelClient.Proofs.Address.Tunnel
import TunnelClient.Proofs.Session.Course

/-!
# The tunnel's gateway

The tunnel's gateway seen from the granted address.  It is a host of the same network and goes when
the link goes down.  It is another host than the client unless the client is granted host `.1`
itself, which nothing refuses: the default route then leads to the device's own address.
-/

namespace TunnelClient

namespace TunnelAddress

/-! ## The gateway -/

private theorem toNat_gateway (a : TunnelAddress) :
    a.gateway.bits.toNat = 2 ^ 8 * (a.inner.bits.toNat / 2 ^ 8) + 1 := by
  have network : a.inner.bits.toNat &&& (2 ^ 32 - 2 ^ 8) = 2 ^ 8 * (a.inner.bits.toNat / 2 ^ 8) :=
    and_high_bits a.inner.bits.toNat_lt (by decide)
  rw [Nat.two_pow_add_eq_or_of_lt (by decide : 1 < 2 ^ 8), ← network]
  rfl

private theorem toNat_octet_zero (a : Ipv4) : (a.octet 0).toNat = a.bits.toNat % 2 ^ 8 := by
  have octet : (a.octet 0).toNat = a.bits.toNat / 2 ^ 0 % 256 := Ipv4.toNat_octet a 0
  omega

theorem gateway_eq_iff (a : TunnelAddress) : a.gateway = a.inner ↔ a.inner.octet 0 = 1 := by
  have bits := toNat_gateway a
  have octet := toNat_octet_zero a.inner
  constructor
  · intro same
    rw [same] at bits
    rw [← UInt8.toNat_inj, octet]
    change _ = 1
    omega
  · intro one
    rw [one] at octet
    have split := Nat.div_add_mod a.inner.bits.toNat (2 ^ 8)
    rw [← octet] at split
    exact congrArg Ipv4.mk (UInt32.toNat_inj.mp (bits.trans split))

theorem gateway_div (a : TunnelAddress) {low : Nat} (wide : 8 ≤ low) :
    a.gateway.bits.toNat / 2 ^ low = a.inner.bits.toNat / 2 ^ low := by
  obtain ⟨more, rfl⟩ := Nat.exists_eq_add_of_le wide
  have bits := toNat_gateway a
  rw [Nat.pow_add, ← Nat.div_div_eq_div_mul, ← Nat.div_div_eq_div_mul]
  congr 1
  omega

theorem sameNetwork_gateway (a : TunnelAddress) : a.inner.sameNetwork 24 a.gateway = true :=
  (Ipv4.sameNetwork_iff (by decide) (by decide)).mpr (gateway_div a (Nat.le_refl 8)).symm

theorem gateway_sameNetwork (a : TunnelAddress) (b : Ipv4) {length : Nat} (positive : 0 < length)
    (short : length ≤ 24) :
    a.gateway.sameNetwork length b = a.inner.sameNetwork length b := by
  have same := gateway_div a (by omega : 8 ≤ 32 - length)
  rw [Bool.eq_iff_iff, Ipv4.sameNetwork_iff positive (by omega),
    Ipv4.sameNetwork_iff positive (by omega), same]

theorem isHost_gateway {a : TunnelAddress} (host : a.inner.IsHost) : a.gateway.IsHost where
  specified := by
    intro zero
    have bits := toNat_gateway a
    rw [zero] at bits
    exact absurd bits (by simp [Ipv4.toNat_bits_ofOctets, natOfBig])
  single := by
    intro ones
    have bits := toNat_gateway a
    rw [ones, Ipv4.toNat_bits_ofOctets] at bits
    simp only [natOfBig, List.foldl_cons, List.foldl_nil] at bits
    change 256 * (256 * (256 * (256 * 0 + 255) + 255) + 255) + 255 = _ at bits
    omega
  unicast := (gateway_sameNetwork a _ (by decide) (by decide)).trans host.unicast
  remote := (gateway_sameNetwork a _ (by decide) (by decide)).trans host.remote

end TunnelAddress

/-- A link that goes down takes every route along that leads to one of its network. -/
private theorem RouteTable.routes_linkDown {address gateway : Ipv4} {length : Nat}
    (near : address.sameNetwork length gateway = true) (t : RouteTable) :
    (t.linkDown address length).default ≠ some gateway ∧
      ∀ host, (host, gateway) ∉ (t.linkDown address length).hosts := by
  simp [linkDown, Option.filter_eq_some_iff, near]

/-! ## Granted addresses -/

private theorem Frame.getLast?_of_granted {bytes : List UInt8} {f : Frame} {a : TunnelAddress}
    (decoded : decode bytes = .ok f) (granted : f.grantedAddress = .ok a) :
    bytes.getLast? = some (a.inner.octet 0) := by
  obtain ⟨rfl, -⟩ := grantedAddress_eq_ok_iff.mp granted
  rw [decode_eq_ok_iff.mp decoded]
  rfl

namespace Handshake

theorem routed_of_setUp {c : Setup} {peer : Ipv4} {a : TunnelAddress} {w w' : World} {t : Tunnel}
    (h : setUp c peer a w = (.ok t, w')) :
    w'.routes.table.default = some a.gateway ∧
      w'.device.map (·.settings.address) = some a.inner := by
  obtain ⟨tunnel, -, -, device, -, -, table, -⟩ := setUp_eq_ok h
  have gateway : t.snapshot.tunnel = a.gateway := by rw [tunnel]
  constructor
  · rw [table, ← gateway]
    rfl
  · rw [device]
    rfl

/-- An Accept with a host's address.  The gateway that goes with it is a host too, lies in the same
network of 256 addresses and goes when the link goes down.  It is the granted address itself exactly
if the Accept ends in 1; then, and only then, setting the tunnel up makes the device's own address
the default gateway. -/
theorem gateway_of_granted {bytes : List UInt8} {f : Frame} {a : TunnelAddress}
    (decoded : Frame.decode bytes = .ok f) (granted : f.grantedAddress = .ok a) :
    (a.gateway = a.inner ↔ bytes.getLast? = some 1) ∧
      a.inner.sameNetwork 24 a.gateway = true ∧
      TunnelAddress.ofIpv4 a.gateway = .ok ⟨a.gateway⟩ ∧
      (∀ t : RouteTable, (t.linkDown a.inner 24).default ≠ some a.gateway ∧
        ∀ host, (host, a.gateway) ∉ (t.linkDown a.inner 24).hosts) ∧
      ∀ c peer w t w', setUp c peer a w = (.ok t, w') →
        w'.routes.table.default = some a.gateway ∧
          (w'.routes.table.default = w'.device.map (·.settings.address) ↔
            bytes.getLast? = some 1) := by
  have host : a.inner.IsHost := (Frame.grantedAddress_eq_ok_iff.mp granted).2
  have own : a.gateway = a.inner ↔ bytes.getLast? = some 1 := by
    rw [a.gateway_eq_iff, Frame.getLast?_of_granted decoded granted, Option.some.injEq]
  refine ⟨own, a.sameNetwork_gateway, ?_, RouteTable.routes_linkDown a.sameNetwork_gateway, ?_⟩
  · exact TunnelAddress.ofIpv4_eq_ok_iff.mpr ⟨rfl, TunnelAddress.isHost_gateway host⟩
  · intro c peer w t w' done
    obtain ⟨default, device⟩ := routed_of_setUp done
    refine ⟨default, ?_⟩
    rw [default, device, Option.some.injEq]
    exact own

theorem gateway_of_granted_last :
    Frame.decode [0xCA, 0xFE, 0xBA, 0xBE, 1, 172, 16, 4, 254] = .ok ⟨.accept, [172, 16, 4, 254]⟩ ∧
      Frame.grantedAddress ⟨.accept, [172, 16, 4, 254]⟩ = .ok ⟨.ofOctets 172 16 4 254⟩ ∧
      TunnelAddress.gateway ⟨.ofOctets 172 16 4 254⟩ ≠ .ofOctets 172 16 4 254 := by
  have decoded : Frame.decode [0xCA, 0xFE, 0xBA, 0xBE, 1, 172, 16, 4, 254] =
      .ok ⟨.accept, [172, 16, 4, 254]⟩ := rfl
  have granted : Frame.grantedAddress ⟨.accept, [172, 16, 4, 254]⟩ =
      .ok ⟨.ofOctets 172 16 4 254⟩ := rfl
  obtain ⟨own, -⟩ := gateway_of_granted decoded granted
  exact ⟨decoded, granted, fun same => absurd (own.mp same) (by decide)⟩

/-- An Accept for host 1, which is the gateway: the default route leads to the device itself. -/
theorem own_gateway_granted :
    Frame.decode [0xCA, 0xFE, 0xBA, 0xBE, 1, 10, 8, 0, 1] = .ok ⟨.accept, [10, 8, 0, 1]⟩ ∧
      Frame.grantedAddress ⟨.accept, [10, 8, 0, 1]⟩ = .ok ⟨.ofOctets 10 8 0 1⟩ ∧
      TunnelAddress.gateway ⟨.ofOctets 10 8 0 1⟩ = .ofOctets 10 8 0 1 ∧
      (setUp Session.Trial.setup ⟨0xC0000201⟩ ⟨.ofOctets 10 8 0 1⟩
        Session.Trial.world).2.routes.table.default = some (.ofOctets 10 8 0 1) ∧
      (setUp Session.Trial.setup ⟨0xC0000201⟩ ⟨.ofOctets 10 8 0 1⟩
        Session.Trial.world).2.device.map (·.settings.address) = some (.ofOctets 10 8 0 1) := by
  decide +kernel

end Handshake

end TunnelClient
