import TunnelClient.Failure.Host

/-!
# Routing tables

An IPv4 routing table with at most one default gateway and one route per host.
Adding a route that is there already fails; removing one that is missing does not.
-/

namespace TunnelClient

/-- Host routes are kept in ascending order of the host. -/
structure RouteTable where
  default : Option Ipv4
  hosts : List (Ipv4 × Ipv4)
  deriving DecidableEq, Repr

inductive RouteChange where
  | setDefault (gateway : Ipv4)
  | clearDefault
  | setHost (gateway host : Ipv4)
  | clearHost (host : Ipv4)
  deriving DecidableEq, Repr

namespace RouteTable

def empty : RouteTable := ⟨none, []⟩

def host? (t : RouteTable) (host : Ipv4) : Option Ipv4 := t.hosts.lookup host

def insertHost (host gateway : Ipv4) : List (Ipv4 × Ipv4) → List (Ipv4 × Ipv4)
  | [] => [(host, gateway)]
  | entry :: rest =>
    if host.bits < entry.1.bits then (host, gateway) :: entry :: rest
    else entry :: insertHost host gateway rest

def eraseHost (host : Ipv4) (hosts : List (Ipv4 × Ipv4)) : List (Ipv4 × Ipv4) :=
  hosts.filter fun entry => entry.1 != host

def readDefault (t : RouteTable) : Except HostError Ipv4 :=
  match t.default with
  | some gateway => .ok gateway
  | none => .error .noDefaultGateway

def change (c : RouteChange) (t : RouteTable) : Except HostError RouteTable :=
  match c with
  | .setDefault gateway =>
    match t.default with
    | some _ => .error (.routeCommandFailed ("add default via " ++ gateway.text) "File exists")
    | none => .ok { t with default := some gateway }
  | .clearDefault => .ok { t with default := none }
  | .setHost gateway host =>
    match t.host? host with
    | some _ =>
      .error (.routeCommandFailed ("add " ++ host.text ++ "/32 via " ++ gateway.text) "File exists")
    | none => .ok { t with hosts := insertHost host gateway t.hosts }
  | .clearHost host => .ok { t with hosts := eraseHost host t.hosts }

/-- A link that goes down takes with it every route whose gateway lies on its network. -/
def linkDown (address : Ipv4) (length : Nat) (t : RouteTable) : RouteTable where
  default := t.default.filter fun gateway => !address.sameNetwork length gateway
  hosts := t.hosts.filter fun entry => !address.sameNetwork length entry.2

end RouteTable

/-- What the detour needs of a routing table: read the default gateway, and make changes. -/
structure Router (σ : Type) where
  read : σ → Except HostError Ipv4 × σ
  change : RouteChange → σ → Except HostError Unit × σ

inductive RouteCall where
  | read
  | change (c : RouteChange)
  deriving DecidableEq, Repr

def Router.call (R : Router σ) : RouteCall → σ → Except HostError (Option Ipv4) × σ
  | .read, s => ((R.read s).1.map some, (R.read s).2)
  | .change c, s => ((R.change c s).1.map fun _ => none, (R.change c s).2)

namespace RouteTable

def changed (c : RouteChange) (t : RouteTable) : Except HostError Unit × RouteTable :=
  match t.change c with
  | .ok t' => (.ok (), t')
  | .error e => (.error e, t)

def router : Router RouteTable where
  read t := (t.readDefault, t)
  change := changed

end RouteTable

end TunnelClient
