import Mathlib.Tactic.SplitIfs
import TunnelClient.Config.Load
import TunnelClient.Proofs.Text.Blank

/-!
# Valid configurations

What makes a configuration valid.  Every fault lies in one field, and checking a configuration
reports a fault exactly if it has one.
-/

namespace TunnelClient.Config

inductive Fault (c : Config) : String → Prop
  | host (blank : Text.AllBlank c.peer.host.toList) : Fault c "peer.host"
  | port (zero : c.peer.port = 0) : Fault c "peer.port"
  | keySource (count : c.crypto.count ≠ 1) : Fault c "crypto"
  | deviceName (length : c.tun.deviceName.utf8ByteSize = 0 ∨ 15 < c.tun.deviceName.utf8ByteSize) :
      Fault c "tun.device_name"
  | mtu (range : c.tun.mtu.toNat < minMtu ∨ maxMtu < c.tun.mtu.toNat) : Fault c "tun.mtu"
  | timeout (zero : c.handshake.seconds = 0) : Fault c "handshake.timeout_secs"

def Reports (c : Config) (e : ClientError) : Prop :=
  ∃ field reason, e = .configInvalid field reason ∧ Fault c field

variable {c : Config} {e : ClientError}

/-! ## Sections -/

theorem Peer.validate_eq_ok_iff {p : Peer} :
    p.validate = .ok () ↔ ¬Text.AllBlank p.host.toList ∧ p.port ≠ 0 := by
  rw [← Text.isEmpty_trim_iff]
  unfold validate
  split_ifs with blank zero <;> simp [*]

theorem KeySource.validate_eq_ok {s : KeySource} (valid : s.validate = .ok ()) : s.count = 1 := by
  unfold validate at valid
  split at valid
  · cases valid
  · assumption
  · cases valid

theorem Interface.validate_eq_ok {t : Interface} (valid : t.validate = .ok ()) :
    (t.deviceName.utf8ByteSize ≠ 0 ∧ t.deviceName.utf8ByteSize ≤ 15) ∧
      minMtu ≤ t.mtu.toNat ∧ t.mtu.toNat ≤ maxMtu := by
  simp only [Interface.validate] at valid
  split_ifs at valid
  omega

theorem Handshake.validate_eq_ok {h : Handshake} (valid : h.validate = .ok ()) : h.seconds ≠ 0 := by
  unfold validate at valid
  split_ifs at valid with zero
  exact zero

private theorem reports_of_peer (failed : c.peer.validate = .error e) : Reports c e := by
  unfold Peer.validate at failed
  split_ifs at failed with blank zero
  · cases failed
    exact ⟨_, _, rfl, .host (Text.isEmpty_trim_iff.mp blank)⟩
  · cases failed
    exact ⟨_, _, rfl, .port zero⟩

private theorem reports_of_crypto (failed : c.crypto.validate = .error e) : Reports c e := by
  unfold KeySource.validate at failed
  split at failed
  · cases failed
    exact ⟨_, _, rfl, .keySource (by omega)⟩
  · cases failed
  · cases failed
    exact ⟨_, _, rfl, .keySource (by assumption)⟩

private theorem reports_of_tun (failed : c.tun.validate = .error e) : Reports c e := by
  simp only [Interface.validate] at failed
  split_ifs at failed with empty long range
  · cases failed
    exact ⟨_, _, rfl, .deviceName (.inl empty)⟩
  · cases failed
    exact ⟨_, _, rfl, .deviceName (.inr long)⟩
  · cases failed
    exact ⟨_, _, rfl, .mtu range⟩

private theorem reports_of_handshake (failed : c.handshake.validate = .error e) : Reports c e := by
  unfold Handshake.validate at failed
  split_ifs at failed with zero
  cases failed
  exact ⟨_, _, rfl, .timeout zero⟩

/-! ## The whole configuration -/

theorem validate_cases (c : Config) :
    c.validate = .ok () ∧ c.peer.validate = .ok () ∧ c.crypto.validate = .ok () ∧
        c.tun.validate = .ok () ∧ c.handshake.validate = .ok () ∨
      ∃ e, c.validate = .error e ∧ Reports c e := by
  unfold validate
  cases peer : c.peer.validate with
  | error e => exact .inr ⟨e, rfl, reports_of_peer peer⟩
  | ok _ =>
    cases crypto : c.crypto.validate with
    | error e => exact .inr ⟨e, rfl, reports_of_crypto crypto⟩
    | ok _ =>
      cases tun : c.tun.validate with
      | error e => exact .inr ⟨e, rfl, reports_of_tun tun⟩
      | ok _ =>
        cases handshake : c.handshake.validate with
        | error e => exact .inr ⟨e, rfl, reports_of_handshake handshake⟩
        | ok _ => exact .inl ⟨rfl, rfl, rfl, rfl, rfl⟩

theorem validate_of_crypto (peer : c.peer.validate = .ok ())
    (crypto : c.crypto.validate = .error e) : c.validate = .error e := by
  rw [validate, peer, crypto]
  rfl

theorem tun_of_validate (valid : c.validate = .ok ()) : c.tun.validate = .ok () := by
  obtain ⟨-, -, -, tun, -⟩ | ⟨e, failed, -⟩ := validate_cases c
  · exact tun
  · rw [valid] at failed
    cases failed

theorem reports_of_validate (failed : c.validate = .error e) : Reports c e := by
  obtain ⟨valid, -⟩ | ⟨e', failed', reports⟩ := validate_cases c
  · rw [valid] at failed
    cases failed
  · rw [failed'] at failed
    cases failed
    exact reports

theorem validate_eq_ok_iff : c.validate = .ok () ↔ ∀ field, ¬Fault c field := by
  obtain ⟨valid, peer, crypto, tun, handshake⟩ | ⟨e, failed, field, reason, -, fault⟩ :=
    validate_cases c
  · obtain ⟨named, numbered⟩ := Peer.validate_eq_ok_iff.mp peer
    obtain ⟨length, range⟩ := Interface.validate_eq_ok tun
    rw [iff_true_left valid]
    intro field fault
    cases fault with
    | host blank => exact named blank
    | port zero => exact numbered zero
    | keySource count => exact count (KeySource.validate_eq_ok crypto)
    | deviceName faulty => omega
    | mtu faulty => omega
    | timeout zero => exact Handshake.validate_eq_ok handshake zero
  · rw [failed, iff_false_left (by simp)]
    intro none
    exact none field fault

theorem validated_eq_ok_iff {c' : Config} :
    validated c = .ok c' ↔ c.validate = .ok () ∧ c = c' := by
  unfold validated
  cases c.validate <;> simp [bind, Except.bind, pure, Except.pure]

theorem validated_eq_error_iff : validated c = .error e ↔ c.validate = .error e := by
  unfold validated
  cases c.validate <;> simp [bind, Except.bind, pure, Except.pure]

end TunnelClient.Config
