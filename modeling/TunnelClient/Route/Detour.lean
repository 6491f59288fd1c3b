import TunnelClient.Route.Table

/-!
# The detour

The detour of all traffic through the tunnel: the peer gets a route of its own
via the former default gateway before the default route moves into the tunnel.
A step that fails undoes those before it; going back attempts every step.
-/

namespace TunnelClient

structure RouteSnapshot where
  former : Ipv4
  tunnel : Ipv4
  peer : Ipv4
  deriving DecidableEq, Repr

def RouteSnapshot.dump (s : RouteSnapshot) : String :=
  "RoutingSnapshot \x7b original_gateway: " ++ s.former.text ++ ", tunnel_gateway: "
    ++ s.tunnel.text ++ ", peer: " ++ s.peer.text ++ " \x7d"

inductive RestoreStep where
  | clearDefault
  | restoreDefault
  | clearHostRoute
  deriving DecidableEq, Repr

def RestoreStep.text : RestoreStep → String
  | clearDefault => "clear default route"
  | restoreDefault => "restore original default route"
  | clearHostRoute => "clear peer host route"

structure RestoreReport where
  failures : List (RestoreStep × HostError)
  deriving DecidableEq, Repr

def RestoreReport.isClean (r : RestoreReport) : Bool := r.failures.isEmpty

namespace Detour

def undoHost (R : Router σ) (peer : Ipv4) (s : σ) : σ := (R.change (.clearHost peer) s).2

def install (R : Router σ) (peer tunnel : Ipv4) (s : σ) : Except HostError RouteSnapshot × σ :=
  match R.read s with
  | (.error e, s) => (.error e, s)
  | (.ok former, s) =>
    match R.change (.setHost former peer) s with
    | (.error e, s) => (.error e, s)
    | (.ok (), s) =>
      match R.change .clearDefault s with
      | (.error e, s) => (.error e, undoHost R peer s)
      | (.ok (), s) =>
        match R.change (.setDefault tunnel) s with
        | (.error e, s) => (.error e, undoHost R peer (R.change (.setDefault former) s).2)
        | (.ok (), s) => (.ok ⟨former, tunnel, peer⟩, s)

def failure? (step : RestoreStep) : Except HostError Unit → List (RestoreStep × HostError)
  | .ok () => []
  | .error e => [(step, e)]

def restore (R : Router σ) (snapshot : RouteSnapshot) (s : σ) : RestoreReport × σ :=
  let (cleared, s) := R.change .clearDefault s
  let (restored, s) := R.change (.setDefault snapshot.former) s
  let (removed, s) := R.change (.clearHost snapshot.peer) s
  (⟨failure? .clearDefault cleared ++ failure? .restoreDefault restored
    ++ failure? .clearHostRoute removed⟩, s)

def dump : String := "RoutingOrchestrator \x7b .. \x7d"

end Detour

end TunnelClient
