import TunnelClient.Route.Table
import TunnelClient.Text.Blank
import TunnelClient.Text.Utf8

/-!
# A table behind `ip`

A routing table behind the `ip` command: one command line per call, the gateway
read from its output, and a route that is gone already taken for removed.
-/

namespace TunnelClient

structure CommandOutput where
  stdout : List UInt8 := []
  stderr : List UInt8 := []
  exitCode : UInt8 := 0
  deriving DecidableEq, Repr

/-- A program that can be run with arguments, or cannot be started at all. -/
structure Program (σ : Type) where
  name : String
  run : List String → σ → Except SystemError CommandOutput × σ

namespace IpCommand

def arguments : RouteChange → List String
  | .setDefault gateway => ["add", "default", "via", gateway.text]
  | .clearDefault => ["del", "default"]
  | .setHost gateway host => ["add", host.text ++ "/32", "via", gateway.text]
  | .clearHost host => ["del", host.text ++ "/32"]

def removes : RouteChange → Bool
  | .clearDefault | .clearHost _ => true
  | _ => false

def line (program : String) (args : List String) : String :=
  " ".intercalate (program :: "-4" :: "route" :: args)

def route (p : Program σ) (args : List String) (s : σ) : Except HostError String × σ :=
  match p.run ("-4" :: "route" :: args) s with
  | (.error e, s) => (.error (.routeCommandFailed (line p.name args) e.message), s)
  | (.ok out, s) =>
    if out.exitCode = 0 then (.ok (Text.Utf8.decodeLossy out.stdout), s)
    else
      let reason := Text.trim (Text.Utf8.decodeLossy out.stderr)
      (.error (.routeCommandFailed (line p.name args) reason), s)

/-! ## Reading the default gateway -/

def startsWithDefault (cs : List Char) : Bool :=
  "default".toList.isPrefixOf (Text.trimLeft cs)

def gatewayAfterVia? : List (List Char) → Option Ipv4
  | [] => none
  | word :: rest =>
    if word = ['v', 'i', 'a'] then rest.head?.bind Ipv4.parseChars? else gatewayAfterVia? rest

/-- The gateway of the first default route that names an IPv4 one. -/
def gateway? (output : String) : Option Ipv4 :=
  ((Text.lines output.toList).filter startsWithDefault).findSome? fun l =>
    gatewayAfterVia? (Text.words l)

def read (p : Program σ) (s : σ) : Except HostError Ipv4 × σ :=
  match route p ["show", "default"] s with
  | (.error e, s) => (.error e, s)
  | (.ok output, s) =>
    match gateway? output with
    | some gateway => (.ok gateway, s)
    | none => (.error .noDefaultGateway, s)

/-! ## Changes -/

def contains (needle : List Char) : List Char → Bool
  | [] => needle.isEmpty
  | c :: rest => needle.isPrefixOf (c :: rest) || contains needle rest

def isGone : HostError → Bool
  | .routeCommandFailed _ reason => contains "No such process".toList reason.toList
  | _ => false

def change (p : Program σ) (c : RouteChange) (s : σ) : Except HostError Unit × σ :=
  match route p (arguments c) s with
  | (.ok _, s) => (.ok (), s)
  | (.error e, s) => if removes c && isGone e then (.ok (), s) else (.error e, s)

def router (p : Program σ) : Router σ := ⟨read p, change p⟩

end IpCommand

/-! ## A program that follows a script -/

structure Script where
  startError : Option SystemError := none
  replies : List CommandOutput
  commands : List (List String) := []
  deriving DecidableEq, Repr

def Script.run (args : List String) (s : Script) : Except SystemError CommandOutput × Script :=
  match s.startError with
  | some e => (.error e, s)
  | none =>
    (.ok (s.replies.headD {}),
      { s with replies := s.replies.tail, commands := s.commands ++ [args] })

def Script.program (name : String) : Program Script := ⟨name, Script.run⟩

end TunnelClient
