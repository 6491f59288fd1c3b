import Mathlib.Logic.Function.Basic
import TunnelClient.Proofs.Route.Table

/-!
# Routing as callers see it

A routing table as those who call it see it: one optional default gateway, and at most one
gateway for each host.  A table kept in memory and one behind a command both follow it.
-/

namespace TunnelClient

@[ext] structure Routing where
  default : Option Ipv4
  host : Ipv4 → Option Ipv4

def RouteChange.gateway? : RouteChange → Option Ipv4
  | setDefault gateway => some gateway
  | setHost gateway _ => some gateway
  | clearDefault | clearHost _ => none

namespace Routing

def at? (r : Routing) : RouteChange → Option Ipv4
  | .setDefault _ | .clearDefault => r.default
  | .setHost _ host | .clearHost host => r.host host

def put (c : RouteChange) (r : Routing) : Routing :=
  match c with
  | .setDefault _ | .clearDefault => { r with default := c.gateway? }
  | .setHost _ host | .clearHost host => { r with host := Function.update r.host host c.gateway? }

/-- A route that is added must be new, and one that is removed must be there. -/
def Possible (c : RouteChange) (r : Routing) : Prop := (r.at? c).isSome ≠ c.gateway?.isSome

instance (c : RouteChange) (r : Routing) : Decidable (r.Possible c) :=
  inferInstanceAs (Decidable (_ ≠ _))

theorem put_of_missing {r : Routing} {c : RouteChange} (removes : c.gateway? = none)
    (missing : ¬ r.Possible c) : r.put c = r := by
  have vacant : r.at? c = none := by simpa [Possible, removes] using missing
  cases c with
  | setDefault gateway => cases removes
  | setHost gateway host => cases removes
  | clearDefault => exact Routing.ext vacant.symm rfl
  | clearHost host =>
      refine Routing.ext rfl ?_
      change Function.update r.host host none = r.host
      rw [← vacant]
      exact Function.update_eq_self host r.host

def readDefault (r : Routing) : Except HostError Ipv4 :=
  match r.default with
  | some gateway => .ok gateway
  | none => .error .noDefaultGateway

/-- The routes themselves: an added route is refused if there is one, without a word why. -/
def router : Router Routing where
  read r := (r.readDefault, r)
  change c r :=
    if r.Possible c then (.ok (), r.put c)
    else (if c.gateway?.isSome then .error (.routeCommandFailed "" "") else .ok (), r)

variable {r : Routing} {c : RouteChange} {gateway known : Ipv4}

private theorem change_of_vacant (adds : c.gateway? = some gateway) (vacant : r.at? c = none) :
    router.change c r = (.ok (), r.put c) := by
  have possible : r.Possible c := by simp [Possible, adds, vacant]
  exact if_pos possible

theorem change_of_impossible (adds : c.gateway? = some gateway) (impossible : ¬ r.Possible c) :
    router.change c r = (.error (.routeCommandFailed "" ""), r) := by
  simp [router, impossible, adds]

private theorem change_of_taken (adds : c.gateway? = some gateway) (taken : r.at? c = some known) :
    router.change c r = (.error (.routeCommandFailed "" ""), r) :=
  change_of_impossible adds (by simp [Possible, adds, taken])

theorem change_of_removal (removes : c.gateway? = none) :
    router.change c r = (.ok (), r.put c) := by
  by_cases possible : r.Possible c
  · exact if_pos possible
  · simp [router, possible, removes, put_of_missing removes possible]

end Routing

/-! ## Calls -/

def HostError.wordless : HostError → HostError
  | routeCommandFailed _ _ => routeCommandFailed "" ""
  | e => e

abbrev HostError.told (outcome : Except HostError α) : Except HostError α :=
  outcome.mapError HostError.wordless

namespace Router

variable {σ τ : Type}

def calls (R : Router σ) : List RouteCall → σ → List (Except HostError (Option Ipv4)) × σ
  | [], s => ([], s)
  | c :: cs, s =>
    let (outcome, s) := R.call c s
    let (outcomes, s) := R.calls cs s
    (outcome :: outcomes, s)

/-- Every call on one router has the outcome that it has on the other, in states that correspond. -/
structure Follows (R : Router σ) (Q : Router τ) (view : σ → τ) (valid : σ → Prop) : Prop where
  read : ∀ s, valid s → HostError.told (R.read s).1 = HostError.told (Q.read (view s)).1 ∧
    view (R.read s).2 = (Q.read (view s)).2 ∧ valid (R.read s).2
  change : ∀ c s, valid s →
    HostError.told (R.change c s).1 = HostError.told (Q.change c (view s)).1 ∧
      view (R.change c s).2 = (Q.change c (view s)).2 ∧ valid (R.change c s).2

variable {R : Router σ} {Q : Router τ} {view : σ → τ} {valid : σ → Prop}

private theorem told_map {outcome : Except HostError α} {outcome' : Except HostError α} (f : α → β)
    (same : HostError.told outcome = HostError.told outcome') :
    HostError.told (outcome.map f) = HostError.told (outcome'.map f) := by
  cases outcome <;> cases outcome' <;> simp_all [Except.mapError, Except.map]

theorem Follows.call (follows : R.Follows Q view valid) (c : RouteCall) {s : σ} (h : valid s) :
    HostError.told (R.call c s).1 = HostError.told (Q.call c (view s)).1 ∧
      view (R.call c s).2 = (Q.call c (view s)).2 ∧ valid (R.call c s).2 := by
  cases c with
  | read =>
      obtain ⟨same, next, kept⟩ := follows.read s h
      exact ⟨told_map some same, next, kept⟩
  | change c =>
      obtain ⟨same, next, kept⟩ := follows.change c s h
      exact ⟨told_map _ same, next, kept⟩

theorem Follows.calls (follows : R.Follows Q view valid) (cs : List RouteCall) {s : σ}
    (h : valid s) :
    (R.calls cs s).1.map HostError.told = (Q.calls cs (view s)).1.map HostError.told ∧
      view (R.calls cs s).2 = (Q.calls cs (view s)).2 := by
  induction cs generalizing s with
  | nil => exact ⟨rfl, rfl⟩
  | cons c cs ih =>
      obtain ⟨same, next, kept⟩ := follows.call c h
      obtain ⟨rest, last⟩ := ih kept
      rw [next] at rest last
      exact ⟨by simp only [Router.calls, List.map_cons, same, rest], last⟩

end Router

/-! ## The table in memory -/

namespace RouteTable

def routing (t : RouteTable) : Routing := ⟨t.default, t.host?⟩

private theorem routing_setHost {t : RouteTable} {gateway host : Ipv4}
    (fresh : t.host? host = none) : routing { t with hosts := insertHost host gateway t.hosts } =
      t.routing.put (.setHost gateway host) := by
  refine Routing.ext rfl (funext fun other => ?_)
  change (insertHost host gateway t.hosts).lookup other =
    Function.update t.host? host (some gateway) other
  by_cases same : other = host
  · rw [same, Function.update_self, lookup_insertHost fresh]
  · rw [Function.update_of_ne same, lookup_insertHost_of_ne same]
    rfl

private theorem routing_clearHost (t : RouteTable) (host : Ipv4) :
    routing { t with hosts := eraseHost host t.hosts } = t.routing.put (.clearHost host) := by
  refine Routing.ext rfl (funext fun other => ?_)
  change (eraseHost host t.hosts).lookup other = Function.update t.host? host none other
  by_cases same : other = host
  · rw [same, Function.update_self, lookup_eraseHost]
  · rw [Function.update_of_ne same, lookup_eraseHost_of_ne same]
    rfl

theorem routing_changed (c : RouteChange) (t : RouteTable) :
    HostError.told (t.changed c).1 = HostError.told (Routing.router.change c t.routing).1 ∧
      (t.changed c).2.routing = (Routing.router.change c t.routing).2 := by
  cases c with
  | clearDefault =>
      rw [Routing.change_of_removal rfl]
      exact ⟨rfl, rfl⟩
  | clearHost host =>
      rw [Routing.change_of_removal rfl]
      exact ⟨rfl, routing_clearHost t host⟩
  | setDefault gateway =>
      cases hd : t.default with
      | none =>
          have vacant : t.routing.at? (.setDefault gateway) = none := hd
          have answer : t.changed (.setDefault gateway) =
              (.ok (), { t with default := some gateway }) := by
            simp only [changed, change, hd]
          rw [Routing.change_of_vacant rfl vacant, answer]
          exact ⟨rfl, rfl⟩
      | some known =>
          have taken : t.routing.at? (.setDefault gateway) = some known := hd
          have answer : t.changed (.setDefault gateway) =
              (.error (.routeCommandFailed ("add default via " ++ gateway.text) "File exists"),
                t) := by
            simp only [changed, change, hd]
          rw [Routing.change_of_taken rfl taken, answer]
          exact ⟨rfl, rfl⟩
  | setHost gateway host =>
      cases hh : t.host? host with
      | none =>
          have vacant : t.routing.at? (.setHost gateway host) = none := hh
          have answer : t.changed (.setHost gateway host) =
              (.ok (), { t with hosts := insertHost host gateway t.hosts }) := by
            simp only [changed, change, hh]
          rw [Routing.change_of_vacant rfl vacant, answer]
          exact ⟨rfl, routing_setHost hh⟩
      | some known =>
          have taken : t.routing.at? (.setHost gateway host) = some known := hh
          have answer : t.changed (.setHost gateway host) =
              (.error (.routeCommandFailed ("add " ++ host.text ++ "/32 via " ++ gateway.text)
                "File exists"), t) := by
            simp only [changed, change, hh]
          rw [Routing.change_of_taken rfl taken, answer]
          exact ⟨rfl, rfl⟩

end RouteTable

namespace FaultyRoutes

private theorem read_of_willing {r : FaultyRoutes} (h : r.Willing) :
    r.read = (r.table.readDefault, r.counted) := by
  have none : r.fault? .readDefault "ReadDefault" = none := by
    simp [fault?, reaches, h.1, h.2]
  rw [read, none]

/-- A table that refuses no call behaves as its routes do. -/
theorem follows_routing :
    FaultyRoutes.router.Follows Routing.router (fun r => r.table.routing) Willing where
  read r willing := by
    change HostError.told r.read.1 = _ ∧ r.read.2.table.routing = _ ∧ r.read.2.Willing
    rw [read_of_willing willing]
    exact ⟨rfl, rfl, willing⟩
  change c r willing := by
    change HostError.told (r.change c).1 = _ ∧ (r.change c).2.table.routing = _ ∧
      (r.change c).2.Willing
    rw [change_of_willing willing]
    obtain ⟨same, next⟩ := RouteTable.routing_changed c r.table
    exact ⟨same, next, willing⟩

end FaultyRoutes

end TunnelClient
