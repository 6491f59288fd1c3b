import TunnelClient.Proofs.Address.Dotted
import TunnelClient.Wire.Frame

/-!
# Where tunnel addresses come from

Where a tunnel address can come from.  An address, four bytes and an Accept frame give one only if
it is the address of a host.  A JSON text is not asked that, so that any address can come from one;
each is written and read back unchanged.
-/

namespace TunnelClient

/-! ## Checked addresses -/

namespace TunnelAddress

theorem ofIpv4_eq_ok_iff {a : Ipv4} {t : TunnelAddress} :
    ofIpv4 a = .ok t ↔ t = ⟨a⟩ ∧ a.IsHost := by
  rw [ofIpv4, ← Ipv4.isUsable_iff]
  split
  · rename_i usable
    simp [usable, eq_comm]
  · rename_i unusable
    simp [unusable]

theorem ofBytes_octets {a : Ipv4} (host : a.IsHost) : ofBytes a.octets = .ok ⟨a⟩ := by
  rw [ofBytes, Ipv4.ofBytes?_octets]
  exact if_pos (Ipv4.isUsable_iff.mpr host)

theorem ofBytes_octets_of_unusable {a : Ipv4} (unusable : ¬a.IsHost) :
    ofBytes a.octets = .error (.unusable a) := by
  rw [ofBytes, Ipv4.ofBytes?_octets]
  exact if_neg fun usable => unusable (Ipv4.isUsable_iff.mp usable)

theorem ofBytes_of_length {bytes : List UInt8} (length : bytes.length ≠ 4) :
    ofBytes bytes = .error (.length bytes.length) := by
  rw [ofBytes, Ipv4.ofBytes?_eq_none_iff.mpr length]

theorem ofBytes_eq_ok_iff {bytes : List UInt8} {t : TunnelAddress} :
    ofBytes bytes = .ok t ↔ bytes = t.inner.octets ∧ t.inner.IsHost := by
  constructor
  · intro h
    rw [ofBytes] at h
    split at h
    · rename_i a found
      obtain ⟨rfl, host⟩ := ofIpv4_eq_ok_iff.mp h
      exact ⟨Ipv4.ofBytes?_eq_some_iff.mp found, host⟩
    · cases h
  · rintro ⟨rfl, host⟩
    exact ofBytes_octets host

end TunnelAddress

theorem Frame.grantedAddress_eq_ok_iff {f : Frame} {t : TunnelAddress} :
    f.grantedAddress = .ok t ↔ f = ⟨.accept, t.inner.octets⟩ ∧ t.inner.IsHost := by
  obtain ⟨kind, payload⟩ := f
  by_cases accept : kind = .accept
  · subst accept
    have granted : grantedAddress ⟨.accept, payload⟩ =
        (TunnelAddress.ofBytes payload).mapError .invalidAssignment := rfl
    rw [granted, Frame.mk.injEq, and_iff_right rfl, ← TunnelAddress.ofBytes_eq_ok_iff]
    cases TunnelAddress.ofBytes payload <;> simp [Except.mapError]
  · have refused : grantedAddress ⟨kind, payload⟩ = .error (.unexpectedKind .accept kind) := by
      simp only [grantedAddress, expect, if_neg accept, bind, Except.bind]
    simp [refused, accept]

/-! ## Addresses in JSON -/

namespace TunnelAddress

def PlainInJson (c : Char) : Prop := c ≠ '"' ∧ c ≠ '\\' ∧ ¬c < ' '

private theorem unescapeJson?_plain {cs : List Char} (plain : ∀ c ∈ cs, PlainInJson c) :
    unescapeJson? (cs ++ ['"']) = some cs := by
  induction cs with
  | nil => rfl
  | cons c cs ih =>
      obtain ⟨quote, escape, visible⟩ := plain c List.mem_cons_self
      rw [List.cons_append, unescapeJson?]
      · rw [if_neg visible, ih fun d mem => plain d (List.mem_cons_of_mem c mem)]
        rfl
      · exact quote
      · exact fun _ _ _ _ _ same => absurd same escape
      · exact fun _ _ same => absurd same escape
      · exact fun same => absurd same escape

private theorem plainInJson_of_mem_text {a : Ipv4} {c : Char} (mem : c ∈ a.text.toList) :
    PlainInJson c := by
  have bounds := Ipv4.bounds_of_mem_text mem
  have code : ¬c.toNat < ' '.toNat := by
    change ¬c.toNat < 32
    omega
  refine ⟨?_, ?_, code⟩
  · rintro rfl
    exact absurd bounds (by decide)
  · rintro rfl
    exact absurd bounds (by decide)

theorem ofJson?_toJson (a : TunnelAddress) : ofJson? a.toJson = some a := by
  have chars : a.toJson.toList = '"' :: (a.inner.text.toList ++ ['"']) := by
    simp [toJson, text]
  have opened : a.toJson.toList.dropWhile (· ∈ [' ', '\t', '\n', '\r']) =
      '"' :: (a.inner.text.toList ++ ['"']) := by
    rw [chars]
    rfl
  simp only [ofJson?, opened, unescapeJson?_plain fun c => plainInJson_of_mem_text,
    Option.bind_eq_bind, Option.bind_some]
  rw [Ipv4.parseChars?_text]
  rfl

/-! ## Origins -/

/-- The outside data that a tunnel address can be read from. -/
inductive Origin where
  | address (a : Ipv4)
  | bytes (octets : List UInt8)
  | frame (f : Frame)
  | json (text : String)

def Origin.read? : Origin → Option TunnelAddress
  | address a => (ofIpv4 a).toOption
  | bytes octets => (ofBytes octets).toOption
  | frame f => f.grantedAddress.toOption
  | json text => ofJson? text

private theorem eq_ok_of_toOption {ε α : Type} {outcome : Except ε α} {x : α}
    (h : outcome.toOption = some x) : outcome = .ok x := by
  cases outcome with
  | error e => cases h
  | ok y =>
      cases h
      rfl

variable {origin : Origin} {t : TunnelAddress}

private theorem isHost_of_read? (h : origin.read? = some t)
    (checked : ∀ text, origin ≠ .json text) : t.inner.IsHost := by
  cases origin with
  | address a =>
      obtain ⟨rfl, host⟩ := ofIpv4_eq_ok_iff.mp (eq_ok_of_toOption h)
      exact host
  | bytes octets => exact (ofBytes_eq_ok_iff.mp (eq_ok_of_toOption h)).2
  | frame f => exact (Frame.grantedAddress_eq_ok_iff.mp (eq_ok_of_toOption h)).2
  | json text => exact absurd rfl (checked text)

/-- Whatever an address was read from, its JSON text reads back as the address.  It passes the check
exactly if it is the address of a host, which it is unless it was read from JSON: from there any
address can come. -/
theorem host_unless_from_json (h : origin.read? = some t) :
    ofJson? t.toJson = some t ∧ (ofIpv4 t.inner = .ok t ↔ t.inner.IsHost) ∧
      (t.inner.IsHost ∨ ∃ text, origin = .json text) ∧
      ∀ any : TunnelAddress, ∃ text, (Origin.json text).read? = some any := by
  refine ⟨ofJson?_toJson t, ?_, ?_, fun any => ⟨any.toJson, ofJson?_toJson any⟩⟩
  · rw [ofIpv4_eq_ok_iff]
    exact and_iff_right rfl
  · by_cases unchecked : ∃ text, origin = .json text
    · exact .inr unchecked
    · exact .inl (isHost_of_read? h fun text same => unchecked ⟨text, same⟩)

theorem host_unless_from_json_loopback :
    (Origin.json " \"127.0.0\\u002e1\"\n").read? = some ⟨Ipv4.loopback⟩ ∧
      ofJson? (toJson ⟨Ipv4.loopback⟩) = some ⟨Ipv4.loopback⟩ := by
  have read : (Origin.json " \"127.0.0\\u002e1\"\n").read? = some ⟨Ipv4.loopback⟩ := by
    decide +kernel
  exact ⟨read, (host_unless_from_json read).1⟩

theorem unspecified_from_json :
    (Origin.json "\"0.0.0.0\"").read? = some ⟨Ipv4.unspecified⟩ ∧
      ofIpv4 Ipv4.unspecified = .error (.unusable Ipv4.unspecified) := by
  decide +kernel

end TunnelAddress

end TunnelClient
