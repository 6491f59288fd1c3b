import TunnelClient.CommandLine.Arguments
import TunnelClient.CommandLine.Help
import TunnelClient.CommandLine.LogFilter
import TunnelClient.Config.Connect

/-!
# Commands

What the commands do, up to the start of a session.
-/

namespace TunnelClient.CommandLine

inductive Outcome where
  | done (exitCode : UInt8) (output : String) (error : Option ClientError)
  | session (setup : Setup) (transport : Udp.Transport)

def success (output : String) : Outcome := .done 0 output none

def failure (e : ClientError) : Outcome := .done 1 "" (some e)

def rejection : Outcome := .done 2 "" none

/-! ## Validating -/

def validReport (path : String) (c : Config) : String :=
  "✅ " ++ path ++ " is valid (key: " ++ c.crypto.text ++ ")\n\n" ++ c.toToml

def validate (h : Host) (path : String) : Outcome :=
  match Config.load h.readText path with
  | .ok c => success (validReport path c)
  | .error e => failure e

/-! ## Connecting -/

/-- The configuration in a file, or the default one if the path leads nowhere. -/
def configOrDefault (readText : Config.ReadText) (path : String) : Except ClientError Config :=
  match readText path with
  | .error ⟨false, _⟩ => .ok {}
  | .error ⟨true, _⟩ | .ok _ => Config.read readText path

def connectConfig (readText : Config.ReadText) (path : String) (server : Option String)
    (port : Option UInt16) : Except ClientError Config := do
  let c ← configOrDefault readText path
  Config.validated (c.withPeer server port)

def logTarget : String := "burrow_client"

def start (h : Host) (nonces : Nat → Nonce) (c : Config) : Outcome :=
  match c.connect h nonces with
  | .ok (setup, transport) => .session setup transport
  | .error e =>
      .done 1 "" (if LogFilter.showsErrors c.logging.level logTarget then some e else none)

def connect (h : Host) (nonces : Nat → Nonce) (path : String) (server : Option String)
    (port : Option UInt16) : Outcome :=
  match connectConfig h.readText path server port with
  | .ok c => start h nonces c
  | .error e => failure e

/-! ## Any command -/

def perform (h : Host) (nonces : Nat → Nonce) (newKey : PresharedKey) : Command → Outcome
  | .connect path server port => connect h nonces path server port
  | .validate path => validate h path
  | .generateKey => success (newKey.toBase64 ++ "\n")

def invoke (h : Host) (nonces : Nat → Nonce) (newKey : PresharedKey) (args : List String) :
    Outcome :=
  match read args with
  | .run c => perform h nonces newKey c
  | .help page => success page.text
  | .version => success versionText
  | .rejected => rejection

end TunnelClient.CommandLine
