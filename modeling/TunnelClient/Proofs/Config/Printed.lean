import TunnelClient.Config.Document
import TunnelClient.Proofs.Toml.Document

/-!
# Printed configurations

A printed configuration reads back as the configuration, with its secrets redacted.
-/

namespace TunnelClient.Config

open Toml (maxInteger)

/-! ## Sections -/

def keywords : List String :=
  ["peer", "host", "port", "crypto", "key", "key_file", "passphrase", "tun", "device_name", "mtu",
    "handshake", "timeout_secs", "logging", "level"]

private theorem isBare_of_mem_keywords {key : String} (h : key ∈ keywords) : Toml.IsBare key := by
  have all : ∀ key ∈ keywords, key.toList ≠ [] ∧ key.toList.all Toml.isBare = true := by decide
  obtain ⟨nonempty, plain⟩ := all key h
  exact ⟨nonempty, List.all_eq_true.mp plain⟩

private theorem mem_optionalField {key : String} {s : Option String} {f : String × Toml.Field}
    (h : f ∈ optionalField key s) : f.1 = key ∧ f.2.Fits := by
  cases s with
  | none => cases h
  | some s =>
      obtain rfl := List.mem_singleton.mp h
      exact ⟨rfl, trivial⟩

private theorem distinct_optionalFields (key keyFile passphrase : Option String) :
    ((optionalField "key" key ++ optionalField "key_file" keyFile
      ++ optionalField "passphrase" passphrase).map Prod.fst).Nodup := by
  cases key <;> cases keyFile <;> cases passphrase <;> simp [optionalField]

private theorem fits_of_lt_size {n : Nat} (h : n < UInt16.size) : (Toml.Field.number n).Fits := by
  have bound : (UInt16.size : Int) ≤ maxInteger := by decide
  change (n : Int) ≤ maxInteger
  omega

private theorem fields_sections {c : Config}
    (bounded : (c.handshake.seconds.toNat : Int) ≤ maxInteger) :
    ∀ s ∈ c.sections, ∀ f ∈ s.fields, f.1 ∈ keywords ∧ f.2.Fits := by
  have port := fits_of_lt_size c.peer.port.toNat_lt
  have mtu := fits_of_lt_size c.tun.mtu.toNat_lt
  have optional : ∀ {key : String} (s : Option String), key ∈ keywords →
      ∀ f ∈ optionalField key s, f.1 ∈ keywords ∧ f.2.Fits := by
    intro key s known f mem
    obtain ⟨same, fits⟩ := mem_optionalField mem
    exact ⟨same ▸ known, fits⟩
  simp only [sections, List.forall_mem_cons, List.forall_mem_append, List.not_mem_nil,
    false_imp_iff, implies_true, and_true]
  exact ⟨⟨⟨by decide, trivial⟩, by decide, port⟩,
    ⟨⟨optional _ (by decide), optional _ (by decide)⟩, optional _ (by decide)⟩,
    ⟨⟨by decide, trivial⟩, by decide, mtu⟩, ⟨by decide, bounded⟩, by decide, trivial⟩

private theorem wellFormed_sections {c : Config}
    (bounded : (c.handshake.seconds.toNat : Int) ≤ maxInteger) :
    ∀ s ∈ c.sections, s.WellFormed := by
  have names : ∀ s ∈ c.sections, s.name ∈ keywords := by
    simp only [sections, List.forall_mem_cons]
    decide
  have distinct : ∀ s ∈ c.sections, (s.fields.map Prod.fst).Nodup := by
    have secrets := distinct_optionalFields c.crypto.key c.crypto.keyFile c.crypto.passphrase
    simp only [sections, List.forall_mem_cons, secrets]
    simp
  intro s mem
  have fields := fields_sections bounded s mem
  exact ⟨isBare_of_mem_keywords (names s mem),
    fun f hf => isBare_of_mem_keywords (fields f hf).1, fun f hf => (fields f hf).2, distinct s mem⟩

/-! ## Reading -/

private theorem numberOr?_toNat {bound n : Nat} (fallback : Nat) (h : n < bound) :
    numberOr? bound fallback (some (.integer n)) = some n := by
  rw [numberOr?, if_pos ⟨by omega, by omega⟩, Int.toNat_natCast]

private theorem peer_ofGiven? (p : Peer) :
    Peer.ofGiven? (.named [("host", .string p.host), ("port", .integer p.port.toNat)]) =
      some p := by
  simp only [Peer.ofGiven?, Given.get?, List.lookup_cons, String.reduceBEq, beq_self_eq_true,
    textOr?, numberOr?_toNat _ p.port.toNat_lt, Option.bind_eq_bind, Option.bind_some,
    UInt16.ofNat_toNat]

private theorem keySource_ofGiven? (s : KeySource) :
    KeySource.ofGiven? (.named ((optionalField "key" s.key ++ optionalField "key_file" s.keyFile
      ++ optionalField "passphrase" s.passphrase).map fun f => (f.1, f.2.value))) = some s := by
  obtain ⟨key, keyFile, passphrase⟩ := s
  cases key <;> cases keyFile <;> cases passphrase <;> rfl

private theorem interface_ofGiven? (t : Interface) :
    Interface.ofGiven? (.named [("device_name", .string t.deviceName),
      ("mtu", .integer t.mtu.toNat)]) = some t := by
  simp only [Interface.ofGiven?, Given.get?, List.lookup_cons, String.reduceBEq, beq_self_eq_true,
    textOr?, numberOr?_toNat _ t.mtu.toNat_lt, Option.bind_eq_bind, Option.bind_some,
    UInt16.ofNat_toNat]

private theorem handshake_ofGiven? (h : Handshake) :
    Handshake.ofGiven? (.named [("timeout_secs", .integer h.seconds.toNat)]) = some h := by
  simp only [Handshake.ofGiven?, Given.get?, List.lookup_cons, beq_self_eq_true,
    numberOr?_toNat _ h.seconds.toNat_lt, Option.bind_eq_bind, Option.bind_some,
    UInt64.ofNat_toNat]

private theorem logging_ofGiven? (l : Logging) :
    Logging.ofGiven? (.named [("level", .string l.level)]) = some l :=
  rfl

theorem read_section {α : Type} {read : Given → Option α} {v : Option Toml.Value} {g : Given}
    {a : α} (given : given? v = some g) (reads : read g = some a) :
    (given? v >>= read) = some a := by
  rw [given]
  exact reads

private theorem ofEntries?_sections (c : Config) :
    ofEntries? (c.sections.map Toml.Section.entry) = some c := by
  have peer : (given? ((c.sections.map Toml.Section.entry).lookup "peer") >>= Peer.ofGiven?) =
      some c.peer :=
    read_section rfl (peer_ofGiven? c.peer)
  have crypto : (given? ((c.sections.map Toml.Section.entry).lookup "crypto") >>=
      KeySource.ofGiven?) = some c.crypto :=
    read_section rfl (keySource_ofGiven? c.crypto)
  have tun : (given? ((c.sections.map Toml.Section.entry).lookup "tun") >>= Interface.ofGiven?) =
      some c.tun :=
    read_section rfl (interface_ofGiven? c.tun)
  have handshake : (given? ((c.sections.map Toml.Section.entry).lookup "handshake") >>=
      Handshake.ofGiven?) = some c.handshake :=
    read_section rfl (handshake_ofGiven? c.handshake)
  have logging : (given? ((c.sections.map Toml.Section.entry).lookup "logging") >>=
      Logging.ofGiven?) = some c.logging :=
    read_section rfl (logging_ofGiven? c.logging)
  rw [ofEntries?, peer, crypto, tun, handshake, logging]
  rfl

/-! ## Printing and reading -/

theorem redacted_redacted (c : Config) : c.redacted.redacted = c.redacted := by
  simp [redacted, KeySource.redacted, Function.comp_def]

theorem handshake_redacted (c : Config) : c.redacted.handshake = c.handshake := rfl

theorem toToml_redacted (c : Config) : c.redacted.toToml = c.toToml := by
  rw [toToml, toToml, redacted_redacted, handshake_redacted]

theorem parse?_toToml {c : Config} (bounded : (c.handshake.seconds.toNat : Int) ≤ maxInteger) :
    parse? c.toToml = some c.redacted := by
  have distinct : (c.redacted.sections.map Toml.Section.name).Nodup := by
    simp [sections]
  have wf : ∀ s ∈ c.redacted.sections, s.WellFormed := by
    rw [← handshake_redacted] at bounded
    exact wellFormed_sections bounded
  rw [toToml, if_neg (Int.not_lt.mpr bounded), parse?, Toml.parse?_sectionsText wf distinct,
    Option.bind_eq_bind, Option.bind_some, ofEntries?_sections]

/-- Whatever its strings hold, a printed configuration reads back with `[REDACTED]` in place of its
secrets and with nothing else changed, and prints as the same text again. -/
theorem printed_reads_back (c : Config)
    (bounded : (c.handshake.seconds.toNat : Int) ≤ maxInteger) :
    ∃ c', parse? c.toToml = some c' ∧
      c' = { c with
        crypto :=
          { key := c.crypto.key.map fun _ => "[REDACTED]"
            keyFile := c.crypto.keyFile
            passphrase := c.crypto.passphrase.map fun _ => "[REDACTED]" } } ∧
      c'.toToml = c.toToml := by
  exact ⟨c.redacted, parse?_toToml bounded, rfl, toToml_redacted c⟩

def awkward : Config where
  peer := { host := "\n'''\"\"\"\"\\\r\n\t\x01" }
  crypto := { key := some "'", keyFile := some "a\"\"'" }
  tun := { deviceName := "'\\" }
  handshake := { seconds := 9223372036854775807 }
  logging := { level := "" }

theorem awkward_reads_back :
    (awkward.handshake.seconds.toNat : Int) ≤ maxInteger ∧
      ∃ c', parse? awkward.toToml = some c' ∧
        c' = { awkward with
          crypto := { key := some "[REDACTED]", keyFile := some "a\"\"'" } } ∧
        c'.toToml = awkward.toToml := by
  have bounded : (awkward.handshake.seconds.toNat : Int) ≤ maxInteger := by decide
  exact ⟨bounded, printed_reads_back awkward bounded⟩

end TunnelClient.Config
