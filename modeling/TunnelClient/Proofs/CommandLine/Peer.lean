import TunnelClient.CommandLine.Run
import TunnelClient.Proofs.Config.Validity

/-!
# A peer on the command line

Connecting to a peer that the command line names.  The peer stored in the file plays no part then,
and what is checked of the file is the rest of it.  There has to be a file all the same: a key can
come from nowhere else.
-/

namespace TunnelClient

namespace Config

def peerFields : List String := ["peer.host", "peer.port"]

theorem fault_withPeer_iff {c : Config} {server field : String} {port : UInt16}
    (named : ¬Text.AllBlank server.toList) (numbered : port ≠ 0) :
    Fault (c.withPeer (some server) (some port)) field ↔ Fault c field ∧ field ∉ peerFields := by
  constructor
  · intro fault
    cases fault with
    | host blank => exact absurd blank named
    | port zero => exact absurd zero numbered
    | keySource count => exact ⟨.keySource count, by decide⟩
    | deviceName length => exact ⟨.deviceName length, by decide⟩
    | mtu range => exact ⟨.mtu range, by decide⟩
    | timeout zero => exact ⟨.timeout zero, by decide⟩
  · rintro ⟨fault, later⟩
    cases fault with
    | host => exact absurd (by decide) later
    | port => exact absurd (by decide) later
    | keySource count => exact .keySource count
    | deviceName length => exact .deviceName length
    | mtu range => exact .mtu range
    | timeout zero => exact .timeout zero

theorem validate_withPeer_iff {c : Config} {server : String} {port : UInt16}
    (named : ¬Text.AllBlank server.toList) (numbered : port ≠ 0) :
    (c.withPeer (some server) (some port)).validate = .ok () ↔
      ∀ field, Fault c field → field ∈ peerFields := by
  simp only [validate_eq_ok_iff, fault_withPeer_iff named numbered, not_and, Classical.not_not]

theorem KeySource.validate_default : ({} : KeySource).validate =
    .error (.configInvalid "crypto" "one of key, key_file or passphrase is required") := rfl

private theorem fault_default (server : Option String) (port : Option UInt16) :
    Fault (({} : Config).withPeer server port) "crypto" := by
  have none : ({} : KeySource).count ≠ 1 := by decide
  exact .keySource none

theorem Peer.resolve_eq_ok {lookup : Lookup} {p : Peer} {found : Endpoint}
    (h : p.resolve lookup = .ok found) : ∃ a, found = .ofIpv4 a p.port := by
  unfold resolve at h
  dsimp only at h
  split at h
  · cases h
  · split at h
    · cases h
      exact ⟨_, rfl⟩
    · cases h

theorem bind_eq_ok {ε α β : Type} {first : Except ε α} {next : α → Except ε β} {result : β}
    (h : first >>= next = .ok result) : ∃ a, first = .ok a ∧ next a = .ok result := by
  cases first with
  | error e => cases h
  | ok a => exact ⟨a, rfl, h⟩

private theorem resolve_of_connect {h : Host} {nonces : Nat → Nonce} {c : Config} {setup : Setup}
    {transport : Udp.Transport} (made : c.connect h nonces = .ok (setup, transport)) :
    c.peer.resolve h.lookup = .ok setup.peer := by
  unfold connect at made
  obtain ⟨key, -, made⟩ := bind_eq_ok made
  obtain ⟨peer, resolved, made⟩ := bind_eq_ok made
  obtain ⟨socket, -, made⟩ := bind_eq_ok made
  cases made
  exact resolved

private theorem read_of_parse {readText : ReadText} {path text : String} {c : Config}
    (opened : readText path = .ok text) (parsed : parse? text = some c) :
    read readText path = .ok c := by
  unfold read
  rw [opened]
  change ofText path text = .ok c
  rw [ofText, parsed]

end Config

namespace CommandLine

inductive Found (readText : Config.ReadText) (path : String) : Option Config → Prop
  | nothing {e : SystemError} (absent : readText path = .error ⟨false, e⟩) :
      Found readText path none
  | file {text : String} {c : Config} (opened : readText path = .ok text)
      (parsed : Config.parse? text = some c) : Found readText path (some c)

variable {readText : Config.ReadText} {path server : String} {port : UInt16}
  {stored : Option Config}

private theorem configOrDefault_of_found (found : Found readText path stored) :
    configOrDefault readText path = .ok (stored.getD {}) := by
  cases found with
  | nothing absent => rw [configOrDefault, absent, Option.getD_none]
  | file opened parsed =>
      rw [configOrDefault, opened]
      exact Config.read_of_parse opened parsed

private theorem connectConfig_of_found (found : Found readText path stored) (server : Option String)
    (port : Option UInt16) : connectConfig readText path server port =
      Config.validated ((stored.getD {}).withPeer server port) := by
  -- By `rfl` after the first rewriting Lean would compare the checks of both sides step by step.
  simp only [connectConfig, configOrDefault_of_found found, bind, Except.bind]

private theorem connectConfig_of_nothing (found : Found readText path none) (server : Option String)
    (port : Option UInt16) (c : Config) : connectConfig readText path server port ≠ .ok c := by
  rw [connectConfig_of_found found]
  intro accepted
  have valid := (Config.validated_eq_ok_iff.mp accepted).1
  exact Config.validate_eq_ok_iff.mp valid "crypto" (Config.fault_default server port)

section

variable (named : ¬Text.AllBlank server.toList) (numbered : port ≠ 0)

include named numbered

private theorem connectConfig_keyless (found : Found readText path none) :
    connectConfig readText path (some server) (some port) =
      .error (.configInvalid "crypto" "one of key, key_file or passphrase is required") := by
  rw [connectConfig_of_found found, Config.validated_eq_error_iff]
  refine Config.validate_of_crypto ?_ ?_
  · exact Config.Peer.validate_eq_ok_iff.mpr ⟨named, numbered⟩
  · exact Config.KeySource.validate_default

theorem connectConfig_eq_ok_iff (found : Found readText path stored) {c' : Config} :
    connectConfig readText path (some server) (some port) = .ok c' ↔
      ∃ c, stored = some c ∧ (∀ field, c.Fault field → field ∈ Config.peerFields) ∧
        c' = { c with peer := ⟨server, port⟩ } := by
  cases stored with
  | none => simp [connectConfig_of_nothing found]
  | some c =>
      rw [connectConfig_of_found found, Config.validated_eq_ok_iff, Option.getD_some,
        Config.validate_withPeer_iff named numbered]
      simp [Config.withPeer, eq_comm]

private theorem fault_of_connectConfig (found : Found readText path stored) {e : ClientError}
    (refusal : connectConfig readText path (some server) (some port) = .error e) :
    ∃ field reason, e = .configInvalid field reason ∧ field ∉ Config.peerFields ∧
      ∀ c, stored = some c → c.Fault field := by
  rw [connectConfig_of_found found, Config.validated_eq_error_iff] at refusal
  obtain ⟨field, reason, rfl, fault⟩ := Config.reports_of_validate refusal
  obtain ⟨fault, later⟩ := (Config.fault_withPeer_iff named numbered).mp fault
  refine ⟨field, reason, rfl, later, ?_⟩
  rintro c rfl
  exact fault

end

/-! ## Connecting -/

private theorem connect_of_accepted {h : Host} {nonces : Nat → Nonce} {server : Option String}
    {port : Option UInt16} {c : Config}
    (accepted : connectConfig h.readText path server port = .ok c) :
    connect h nonces path server port = start h nonces c := by
  rw [connect, accepted]

private theorem connect_of_refusal {h : Host} {nonces : Nat → Nonce} {server : Option String}
    {port : Option UInt16} {e : ClientError}
    (refusal : connectConfig h.readText path server port = .error e) :
    connect h nonces path server port = failure e := by
  rw [connect, refusal]

theorem peer_of_session {h : Host} {nonces : Nat → Nonce} {server : Option String}
    {port : Option UInt16} {setup : Setup} {transport : Udp.Transport}
    (session : connect h nonces path server port = .session setup transport) :
    ∃ c, connectConfig h.readText path server port = .ok c ∧
      c.peer.resolve h.lookup = .ok setup.peer := by
  cases checked : connectConfig h.readText path server port with
  | error e =>
      rw [connect_of_refusal checked] at session
      cases session
  | ok c =>
      rw [connect_of_accepted checked, start] at session
      split at session
      · cases session
        rename_i made
        exact ⟨c, rfl, Config.resolve_of_connect made⟩
      · cases session

/-- How connecting goes when the command line names the whole peer, and `stored` is the
configuration in the file, if there is one. -/
structure TakesPeer (h : Host) (nonces : Nat → Nonce) (path server : String) (port : UInt16)
    (stored : Option Config) (outcome : Outcome) : Prop where
  valid : (∃ c, connectConfig h.readText path (some server) (some port) = .ok c) ↔
    ∃ c, stored = some c ∧ ∀ field, c.Fault field → field ∈ Config.peerFields
  used : ∀ c', connectConfig h.readText path (some server) (some port) = .ok c' →
    outcome = start h nonces c' ∧ ∃ c, stored = some c ∧ c' = { c with peer := ⟨server, port⟩ }
  refused : ∀ e, connectConfig h.readText path (some server) (some port) = .error e →
    outcome = failure e ∧ ∃ field reason, e = .configInvalid field reason ∧
      field ∉ Config.peerFields ∧ ∀ c, stored = some c → c.Fault field
  keyless : stored = none →
    connectConfig h.readText path (some server) (some port) =
        .error (.configInvalid "crypto" "one of key, key_file or passphrase is required") ∧
      ∀ server' port' c, connectConfig h.readText path server' port' ≠ .ok c
  alike : ∀ readText' peer, Found readText' path (stored.map fun c => { c with peer := peer }) →
    connectConfig readText' path (some server) (some port) =
      connectConfig h.readText path (some server) (some port)
  dialled : ∀ setup transport, outcome = .session setup transport →
    Config.Peer.resolve h.lookup ⟨server, port⟩ = .ok setup.peer ∧ setup.peer.port = port

/-- A peer named on the command line is the one that is checked and dialled, whatever peer the file
names, and all that can be wrong is the rest of the file.  Without a file nothing can be right, for
want of a key. -/
theorem peer_of_command_line_counts (nonces : Nat → Nonce) (newKey : PresharedKey) {h : Host}
    {args : List String} (asked : read args = .run (.connect path (some server) (some port)))
    (named : ¬Text.AllBlank server.toList) (numbered : port ≠ 0)
    (found : Found h.readText path stored) :
    TakesPeer h nonces path server port stored (invoke h nonces newKey args) := by
  have performed : invoke h nonces newKey args =
      connect h nonces path (some server) (some port) := by
    rw [invoke, asked]
    rfl
  rw [performed]
  constructor
  case valid =>
    constructor
    · rintro ⟨c', accepted⟩
      obtain ⟨c, held, sound, -⟩ := (connectConfig_eq_ok_iff named numbered found).mp accepted
      exact ⟨c, held, sound⟩
    · rintro ⟨c, held, sound⟩
      exact ⟨_, (connectConfig_eq_ok_iff named numbered found).mpr ⟨c, held, sound, rfl⟩⟩
  case used =>
    intro c' accepted
    obtain ⟨c, held, -, peer⟩ := (connectConfig_eq_ok_iff named numbered found).mp accepted
    exact ⟨connect_of_accepted accepted, c, held, peer⟩
  case refused =>
    intro e refusal
    exact ⟨connect_of_refusal refusal, fault_of_connectConfig named numbered found refusal⟩
  case keyless =>
    rintro rfl
    exact ⟨connectConfig_keyless named numbered found, connectConfig_of_nothing found⟩
  case alike =>
    intro readText' peer found'
    rw [connectConfig_of_found found, connectConfig_of_found found']
    -- Whatever peer was stored, it is gone before anything is checked.
    cases stored <;> rfl
  case dialled =>
    intro setup transport session
    obtain ⟨c', accepted, resolved⟩ := peer_of_session session
    obtain ⟨c, -, -, rfl⟩ := (connectConfig_eq_ok_iff named numbered found).mp accepted
    obtain ⟨a, peer⟩ := Config.Peer.resolve_eq_ok resolved
    exact ⟨resolved, by rw [peer]; rfl⟩

/-- A host with one file, whose peer is of no use. -/
def staleHost : Host where
  readText path :=
    if path = "client.toml" then
      .ok "[peer]\nhost = \"\"\nport = 0\n[crypto]\nkey_file = \"key\"\n"
    else .error ⟨false, .number 2⟩
  lookup _ := .error (.number 2)
  network := .isolated []

theorem peer_of_command_line_counts_stale :
    read ["connect", "-c", "client.toml", "--server= 198.51.100.7", "-p4500"] =
        .run (.connect "client.toml" (some " 198.51.100.7") (some 4500)) ∧
      ¬Text.AllBlank " 198.51.100.7".toList ∧ (4500 : UInt16) ≠ 0 ∧
      Found staleHost.readText "client.toml"
        (some { peer := ⟨"", 0⟩, crypto := { keyFile := some "key" } }) ∧
      connectConfig staleHost.readText "client.toml" (some " 198.51.100.7") (some 4500) =
        .ok { peer := ⟨" 198.51.100.7", 4500⟩, crypto := { keyFile := some "key" } } := by
  have asked : read ["connect", "-c", "client.toml", "--server= 198.51.100.7", "-p4500"] =
      .run (.connect "client.toml" (some " 198.51.100.7") (some 4500)) := by
    decide +kernel
  have named : ¬Text.AllBlank " 198.51.100.7".toList := by
    intro blank
    exact absurd (blank '1' (by decide)) (by decide)
  have numbered : (4500 : UInt16) ≠ 0 := by decide
  have found : Found staleHost.readText "client.toml"
      (some { peer := ⟨"", 0⟩, crypto := { keyFile := some "key" } }) :=
    .file rfl (by decide +kernel)
  have takes := peer_of_command_line_counts Nonce.ofNat ⟨List.replicate 32 0, rfl⟩ asked named
    numbered found
  obtain ⟨c', accepted⟩ := takes.valid.mpr ⟨_, rfl, fun field fault => by
    cases fault with
    | host => decide
    | port => decide
    | keySource count => exact absurd (by decide) count
    | deviceName length => exact absurd length (by decide)
    | mtu range => exact absurd range (by decide)
    | timeout zero => exact absurd zero (by decide)⟩
  obtain ⟨-, c, held, peer⟩ := takes.used c' accepted
  cases held
  exact ⟨asked, named, numbered, found, peer ▸ accepted⟩

theorem keyless_without_file :
    read ["connect", "-c", "missing.toml", "-s", "127.0.0.1", "-p", "1"] =
        .run (.connect "missing.toml" (some "127.0.0.1") (some 1)) ∧
      ¬Text.AllBlank "127.0.0.1".toList ∧ (1 : UInt16) ≠ 0 ∧
      Found staleHost.readText "missing.toml" none ∧
      connectConfig staleHost.readText "missing.toml" (some "127.0.0.1") (some 1) =
        .error (.configInvalid "crypto" "one of key, key_file or passphrase is required") := by
  have named : ¬Text.AllBlank "127.0.0.1".toList := by
    intro blank
    exact absurd (blank '1' (by decide)) (by decide)
  have numbered : (1 : UInt16) ≠ 0 := by decide
  have found : Found staleHost.readText "missing.toml" none := .nothing rfl
  exact ⟨by decide +kernel, named, numbered, found, connectConfig_keyless named numbered found⟩

end CommandLine

end TunnelClient
