import TunnelClient.Proofs.Config.Printed

/-!
# Secrets of a configuration

What is shown of a configuration, and what is said when it is checked, says nothing about the
key and the passphrase but whether they are there.
-/

namespace TunnelClient.Config

/-! ## Redaction -/

theorem KeySource.redacted_eq_iff {s s' : KeySource} : s.redacted = s'.redacted ↔
    s.key.isSome = s'.key.isSome ∧ s.keyFile = s'.keyFile ∧
      s.passphrase.isSome = s'.passphrase.isSome := by
  have hidden : ∀ {o o' : Option String},
      (o.map fun _ => redactedText) = (o'.map fun _ => redactedText) ↔ o.isSome = o'.isSome := by
    rintro (_ | _) (_ | _) <;> simp
  rw [redacted, redacted, KeySource.mk.injEq, hidden, hidden]

theorem KeySource.text_redacted (s : KeySource) : s.redacted.text = s.text := by
  obtain ⟨key, keyFile, passphrase⟩ := s
  cases key <;> cases keyFile <;> cases passphrase <;> rfl

theorem KeySource.validate_redacted (s : KeySource) : s.redacted.validate = s.validate := by
  have count : s.redacted.count = s.count := by
    simp [count, redacted, List.countP_cons]
  rw [validate, validate, count]

theorem KeySource.dump_redacted (s : KeySource) : s.redacted.dump = s.dump := by
  rw [dump, dump, text_redacted]

theorem validate_redacted (c : Config) : c.redacted.validate = c.validate := by
  have crypto : c.redacted.crypto.validate = c.crypto.validate := c.crypto.validate_redacted
  rw [validate, validate, crypto]
  rfl

theorem dump_redacted (c : Config) : c.redacted.dump = c.dump := by
  have crypto : c.redacted.crypto.dump = c.crypto.dump := c.crypto.dump_redacted
  rw [dump, dump, crypto]
  rfl

example : ({ crypto := { key := some "c2VjcmV0" } } : Config).dump =
    "ClientConfig \x7b peer: PeerConfig \x7b host: \"\", port: 9000 \x7d, " ++
      "crypto: CryptoConfig \x7b source: \"inline key\" \x7d, " ++
      "tun: DeviceConfig \x7b device_name: \"tun0\", mtu: 1400 \x7d, " ++
      "handshake: HandshakeConfig \x7b timeout_secs: 10 \x7d, " ++
      "logging: LogConfig \x7b level: \"info\" \x7d \x7d" := by
  decide +kernel

/-! ## Secrets -/

/-- The same configuration but for the contents of its secrets. -/
structure SameButSecrets (c c' : Config) : Prop where
  peer : c.peer = c'.peer
  key : c.crypto.key.isSome = c'.crypto.key.isSome
  keyFile : c.crypto.keyFile = c'.crypto.keyFile
  passphrase : c.crypto.passphrase.isSome = c'.crypto.passphrase.isSome
  tun : c.tun = c'.tun
  handshake : c.handshake = c'.handshake
  logging : c.logging = c'.logging

theorem SameButSecrets.redacted {c c' : Config} (same : SameButSecrets c c') :
    c.redacted = c'.redacted := by
  rw [Config.redacted, Config.redacted, Config.mk.injEq]
  exact ⟨same.peer, KeySource.redacted_eq_iff.mpr ⟨same.key, same.keyFile, same.passphrase⟩,
    same.tun, same.handshake, same.logging⟩

/-- **Nothing that is shown depends on a secret.**  Configurations that differ in the contents of
their secrets alone are valid or faulty in the same way, and have the same source, the same dump and
the same document, whether or not they are valid or can be printed. -/
theorem shown_alike {c c' : Config} (same : SameButSecrets c c') :
    c.validate = c'.validate ∧ c.crypto.text = c'.crypto.text ∧ c.dump = c'.dump ∧
      c.toToml = c'.toToml := by
  have redacted := same.redacted
  refine ⟨?_, ?_, ?_, ?_⟩
  · rw [← validate_redacted, redacted, validate_redacted]
  · have crypto : c.crypto.redacted = c'.crypto.redacted := congrArg Config.crypto redacted
    rw [← KeySource.text_redacted, crypto, KeySource.text_redacted]
  · rw [← dump_redacted, redacted, dump_redacted]
  · rw [← toToml_redacted, redacted, toToml_redacted]

def overdone (key passphrase : String) : Config where
  peer := { host := "vpn.example.com" }
  crypto := { key := some key, passphrase := some passphrase }
  handshake := { seconds := 9223372036854775808 }

theorem shown_alike_overdone :
    (overdone "c2VjcmV0" "hunter2").dump = (overdone "" "[REDACTED]\"").dump ∧
      (overdone "c2VjcmV0" "hunter2").validate = (overdone "" "[REDACTED]\"").validate ∧
      (overdone "c2VjcmV0" "hunter2").validate ≠ .ok () ∧
      (overdone "c2VjcmV0" "hunter2").toToml = "" ∧
      (overdone "" "[REDACTED]\"").toToml = "" := by
  have same : SameButSecrets (overdone "c2VjcmV0" "hunter2") (overdone "" "[REDACTED]\"") :=
    ⟨rfl, rfl, rfl, rfl, rfl, rfl, rfl⟩
  obtain ⟨valid, -, dumped, printed⟩ := shown_alike same
  have empty : (overdone "c2VjcmV0" "hunter2").toToml = "" := by decide
  exact ⟨dumped, valid, by decide, empty, printed ▸ empty⟩

end TunnelClient.Config
