import TunnelClient.Proofs.Address.Tunnel
import TunnelClient.Proofs.Wire.Opening
import TunnelClient.Session.Handshake

/-!
# What a reply grants

What a reply grants.  It grants an address exactly if it opens to an Accept frame with the
octets of a host, and is refused otherwise for the first thing that is wrong with it.
-/

namespace TunnelClient

namespace Handshake

/-- Why a reply grants nothing.  Each reason counts only where the ones before it are absent. -/
inductive Refusal (key : PresharedKey) (reply : Datagram) : WireError → Prop
  | unauthentic (closed : ∀ text, Seal.unwrap key reply ≠ .ok text) :
      Refusal key reply .decryption
  | malformed {text : List UInt8} {e : WireError} (opens : Seal.unwrap key reply = .ok text)
      (fault : Frame.FirstFault text e) : Refusal key reply e
  | kind {f : Frame} (opens : Seal.unwrap key reply = .ok f.encode) (other : f.kind ≠ .accept) :
      Refusal key reply (.unexpectedKind .accept f.kind)
  | length {payload : List UInt8}
      (opens : Seal.unwrap key reply = .ok (Frame.encode ⟨.accept, payload⟩))
      (length : payload.length ≠ 4) :
      Refusal key reply (.invalidAssignment (.length payload.length))
  | address {a : Ipv4}
      (opens : Seal.unwrap key reply = .ok (Frame.encode ⟨.accept, a.octets⟩))
      (unusable : ¬a.IsHost) : Refusal key reply (.invalidAssignment (.unusable a))

/-- A reply grants an address: it opens to an Accept frame with the octets of a host. -/
structure Grants (key : PresharedKey) (reply : Datagram) (a : TunnelAddress) : Prop where
  opens : Seal.unwrap key reply = .ok ([0xCA, 0xFE, 0xBA, 0xBE, 1] ++ a.inner.octets)
  host : a.inner.IsHost

variable {key : PresharedKey} {reply : Datagram}

private theorem granted_of_opens {f : Frame} (opens : Seal.unwrap key reply = .ok f.encode) :
    granted key reply = f.grantedAddress := by
  simp only [granted, Seal.unwrapFrame, opens, bind, Except.bind, Frame.decode_encode]

private theorem grantedAddress_accept (payload : List UInt8) :
    Frame.grantedAddress ⟨.accept, payload⟩ =
      (TunnelAddress.ofBytes payload).mapError .invalidAssignment :=
  rfl

private theorem granted_of_grants {a : TunnelAddress} (h : Grants key reply a) :
    granted key reply = .ok a := by
  rw [granted_of_opens (f := ⟨.accept, a.inner.octets⟩) h.opens, grantedAddress_accept,
    TunnelAddress.ofBytes_octets h.host]
  rfl

private theorem granted_of_refusal {e : WireError} (h : Refusal key reply e) :
    granted key reply = .error e := by
  cases h with
  | unauthentic closed =>
      obtain ⟨text, opens⟩ | refused := Seal.unwrap_cases key reply
      · exact absurd opens (closed text)
      · simp only [granted, Seal.unwrapFrame, refused, bind, Except.bind]
  | malformed opens fault =>
      simp only [granted, Seal.unwrapFrame, opens, bind, Except.bind,
        Frame.decode_of_firstFault fault]
  | kind opens other =>
      rw [granted_of_opens opens]
      simp only [Frame.grantedAddress, Frame.expect, if_neg other, bind, Except.bind]
  | length opens length =>
      rw [granted_of_opens opens, grantedAddress_accept, TunnelAddress.ofBytes_of_length length]
      rfl
  | address opens unusable =>
      rw [granted_of_opens opens, grantedAddress_accept,
        TunnelAddress.ofBytes_octets_of_unusable unusable]
      rfl

private theorem grants_or_refusal (key : PresharedKey) (reply : Datagram) :
    (∃ a, Grants key reply a) ∨ ∃ e, Refusal key reply e := by
  -- stage by stage: the first one that fails gives the reason
  by_cases open' : ∃ text, Seal.unwrap key reply = .ok text
  · obtain ⟨text, opens⟩ := open'
    cases hdecode : Frame.decode text with
    | error e => exact .inr ⟨e, .malformed opens (Frame.firstFault_of_decode hdecode)⟩
    | ok f =>
        obtain rfl := Frame.eq_encode_of_decode hdecode
        by_cases accept : f.kind = .accept
        · obtain ⟨kind, payload⟩ := f
          obtain rfl : kind = .accept := accept
          cases hbytes : Ipv4.ofBytes? payload with
          | none => exact .inr ⟨_, .length opens (Ipv4.ofBytes?_eq_none_iff.mp hbytes)⟩
          | some a =>
              obtain rfl := Ipv4.ofBytes?_eq_some_iff.mp hbytes
              by_cases host : a.IsHost
              · exact .inl ⟨⟨a⟩, opens, host⟩
              · exact .inr ⟨_, .address opens host⟩
        · exact .inr ⟨_, .kind opens accept⟩
  · exact .inr ⟨_, .unauthentic fun text opens => open' ⟨text, opens⟩⟩

theorem granted_eq_ok_iff {a : TunnelAddress} :
    granted key reply = .ok a ↔ Grants key reply a := by
  refine ⟨fun h => ?_, granted_of_grants⟩
  obtain ⟨b, grants⟩ | ⟨e, refusal⟩ := grants_or_refusal key reply
  · rw [granted_of_grants grants] at h
    cases h
    exact grants
  · rw [granted_of_refusal refusal] at h
    cases h

theorem granted_eq_error_iff {e : WireError} :
    granted key reply = .error e ↔ Refusal key reply e := by
  refine ⟨fun h => ?_, granted_of_refusal⟩
  obtain ⟨a, grants⟩ | ⟨e', refusal⟩ := grants_or_refusal key reply
  · rw [granted_of_grants grants] at h
    cases h
  · rw [granted_of_refusal refusal] at h
    cases h
    exact refusal

theorem Grants.length {a : TunnelAddress} (h : Grants key reply a) : reply.length = 37 := by
  rw [Seal.length_of_unwrap h.opens]
  rfl

end Handshake

end TunnelClient
