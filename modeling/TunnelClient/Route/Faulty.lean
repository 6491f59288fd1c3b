import TunnelClient.Route.Table

/-!
# A table that refuses calls

A routing table that refuses calls: chosen ones by their number, before they
reach the table, and all of a kind while that kind is set to fail.
-/

namespace TunnelClient

inductive RouteKind where
  | readDefault
  | setDefault
  | clearDefault
  | setHost
  | clearHost
  deriving DecidableEq, Repr

def RouteKind.all : List RouteKind :=
  [.readDefault, .setDefault, .clearDefault, .setHost, .clearHost]

def RouteKind.name : RouteKind → String
  | readDefault => "read_default"
  | setDefault => "set_default"
  | clearDefault => "clear_default"
  | setHost => "set_host"
  | clearHost => "clear_host"

def RouteChange.kind : RouteChange → RouteKind
  | setDefault _ => .setDefault
  | clearDefault => .clearDefault
  | setHost _ _ => .setHost
  | clearHost _ => .clearHost

def RouteChange.dump : RouteChange → String
  | setDefault gateway => "SetDefault(" ++ gateway.text ++ ")"
  | clearDefault => "ClearDefault"
  | setHost gateway host =>
    "SetHost \x7b gateway: " ++ gateway.text ++ ", host: " ++ host.text ++ " \x7d"
  | clearHost host => "ClearHost(" ++ host.text ++ ")"

inductive RouteEvent where
  | read (reached : Bool) (outcome : Except HostError Ipv4)
  | change (reached : Bool) (c : RouteChange) (outcome : Except HostError Unit)

/-! ## Log lines -/

def RouteChange.line (c : RouteChange) : String :=
  c.kind.name ++
    match c with
    | setDefault gateway => " " ++ gateway.text
    | clearDefault => ""
    | setHost gateway host => " " ++ host.text ++ " via " ++ gateway.text
    | clearHost host => " " ++ host.text

def failureText : Except HostError Unit → String
  | .ok () => ""
  | .error e => " ! " ++ e.message

namespace RouteEvent

def line : RouteEvent → String
  | read _ (.ok gateway) => "route read_default = " ++ gateway.text
  | read _ (.error e) => "route read_default" ++ failureText (.error e)
  | change _ c outcome => "route " ++ c.line ++ failureText outcome

def recorded? : RouteEvent → Option String
  | read reached _ => if reached then some RouteKind.readDefault.name else none
  | change reached c _ => if reached then some c.line else none

end RouteEvent

/-! ## The table -/

structure FaultyRoutes where
  table : RouteTable
  failing : List RouteKind := []
  refused : List Nat := []
  calls : Nat := 0
  deriving DecidableEq, Repr

namespace FaultyRoutes

def reaches (r : FaultyRoutes) : Bool := !r.refused.contains r.calls

def fault? (kind : RouteKind) (dump : String) (r : FaultyRoutes) : Option HostError :=
  if !r.reaches then
    let n := r.calls
    some (.routeCommandFailed s!"call {n}" "refused")
  else if r.failing.contains kind then some (.routeCommandFailed dump "injected failure")
  else none

def counted (r : FaultyRoutes) : FaultyRoutes := { r with calls := r.calls + 1 }

def read (r : FaultyRoutes) : Except HostError Ipv4 × FaultyRoutes :=
  match r.fault? .readDefault "ReadDefault" with
  | some e => (.error e, r.counted)
  | none => (r.table.readDefault, r.counted)

def change (c : RouteChange) (r : FaultyRoutes) : Except HostError Unit × FaultyRoutes :=
  match r.fault? c.kind c.dump with
  | some e => (.error e, r.counted)
  | none =>
    let (outcome, table) := r.table.changed c
    (outcome, { r.counted with table := table })

def router : Router FaultyRoutes := ⟨read, change⟩

def fail (kind : RouteKind) (r : FaultyRoutes) : FaultyRoutes :=
  { r with failing := kind :: r.failing }

def unfail (kind : RouteKind) (r : FaultyRoutes) : FaultyRoutes :=
  { r with failing := r.failing.filter (· != kind) }

def mapTable (f : RouteTable → RouteTable) (r : FaultyRoutes) : FaultyRoutes :=
  { r with table := f r.table }

/-- A change that others make.  A failing kind holds for them too, but theirs is no call that
counts. -/
def meddle (c : RouteChange) (r : FaultyRoutes) : FaultyRoutes :=
  if r.failing.contains c.kind then r else r.mapTable fun t => (t.changed c).2

end FaultyRoutes

structure RouteJournal where
  routes : FaultyRoutes
  entries : List RouteEvent := []

namespace RouteJournal

def read (j : RouteJournal) : Except HostError Ipv4 × RouteJournal :=
  let (outcome, routes) := j.routes.read
  (outcome, ⟨routes, j.entries ++ [.read j.routes.reaches outcome]⟩)

def change (c : RouteChange) (j : RouteJournal) : Except HostError Unit × RouteJournal :=
  let (outcome, routes) := j.routes.change c
  (outcome, ⟨routes, j.entries ++ [.change j.routes.reaches c outcome]⟩)

def router : Router RouteJournal := ⟨read, change⟩

end RouteJournal

end TunnelClient
