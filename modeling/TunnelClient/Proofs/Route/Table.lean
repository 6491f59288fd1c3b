import Mathlib.Data.List.Basic
import TunnelClient.Route.Faulty

/-!
# What a table keeps

What a routing table keeps.  A route to a new host can be looked up, and taking it
away again gives the old hosts back, whatever filter went over them in between.
-/

namespace TunnelClient

attribute [ext] RouteTable

namespace RouteTable

theorem lookup_insertHost {host : Ipv4} {hosts : List (Ipv4 × Ipv4)}
    (fresh : hosts.lookup host = none) (gateway : Ipv4) :
    (insertHost host gateway hosts).lookup host = some gateway := by
  induction hosts with
  | nil => simp [insertHost]
  | cons entry rest ih =>
      obtain ⟨known, via⟩ := entry
      rw [List.lookup_cons] at fresh
      cases hk : host == known with
      | true => simp [hk] at fresh
      | false =>
          simp only [hk] at fresh
          simp only [insertHost]
          split
          · simp
          · rw [List.lookup_cons, hk]
            exact ih fresh

theorem eraseHost_insertHost (host gateway : Ipv4) (hosts : List (Ipv4 × Ipv4)) :
    eraseHost host (insertHost host gateway hosts) = eraseHost host hosts := by
  induction hosts with
  | nil => simp [insertHost, eraseHost]
  | cons entry rest ih =>
      simp only [eraseHost] at ih
      simp only [insertHost]
      split
      · simp [eraseHost]
      · simp only [eraseHost, List.filter_cons, ih]

theorem eraseHost_eraseHost (host : Ipv4) (hosts : List (Ipv4 × Ipv4)) :
    eraseHost host (eraseHost host hosts) = eraseHost host hosts := by
  simp [eraseHost, List.filter_filter]

theorem eraseHost_of_lookup {host : Ipv4} {hosts : List (Ipv4 × Ipv4)}
    (fresh : hosts.lookup host = none) : eraseHost host hosts = hosts := by
  rw [eraseHost, List.filter_eq_self]
  intro entry hentry
  have hne := List.lookup_eq_none_iff.mp fresh entry hentry
  simpa [bne, BEq.comm] using hne

theorem lookup_insertHost_of_ne {host other : Ipv4} (ne : other ≠ host) (gateway : Ipv4)
    (hosts : List (Ipv4 × Ipv4)) :
    (insertHost host gateway hosts).lookup other = hosts.lookup other := by
  have differ : (other == host) = false := beq_eq_false_iff_ne.mpr ne
  induction hosts with
  | nil => rw [insertHost, List.lookup_cons, differ]
  | cons entry rest ih =>
      rw [insertHost]
      split
      · rw [List.lookup_cons, differ]
      · rw [List.lookup_cons, List.lookup_cons, ih]

theorem lookup_eraseHost_of_ne {host other : Ipv4} (ne : other ≠ host)
    (hosts : List (Ipv4 × Ipv4)) : (eraseHost host hosts).lookup other = hosts.lookup other := by
  induction hosts with
  | nil => rfl
  | cons entry rest ih =>
      obtain ⟨known, via⟩ := entry
      rw [eraseHost] at ih ⊢
      rw [List.lookup_cons, ← ih]
      by_cases erased : known = host
      · subst erased
        simp [beq_eq_false_iff_ne.mpr ne]
      · simp [erased, List.lookup_cons]

theorem lookup_eraseHost (host : Ipv4) (hosts : List (Ipv4 × Ipv4)) :
    (eraseHost host hosts).lookup host = none := by
  rw [List.lookup_eq_none_iff]
  intro entry mem
  simpa [bne, BEq.comm] using (List.mem_filter.mp mem).2

theorem eraseHost_filter_insertHost {host : Ipv4} {hosts : List (Ipv4 × Ipv4)}
    {kept : Ipv4 × Ipv4 → Bool} (fresh : hosts.lookup host = none)
    (pass : ∀ entry ∈ hosts, kept entry = true) (gateway : Ipv4) :
    eraseHost host ((insertHost host gateway hosts).filter kept) = hosts := by
  have commute : eraseHost host ((insertHost host gateway hosts).filter kept) =
      (eraseHost host (insertHost host gateway hosts)).filter kept := by
    simp only [eraseHost, List.filter_filter, Bool.and_comm]
  rw [commute, eraseHost_insertHost, eraseHost_of_lookup fresh]
  exact List.filter_eq_self.mpr pass

end RouteTable

namespace FaultyRoutes

def Willing (r : FaultyRoutes) : Prop := r.failing = [] ∧ r.refused = []

theorem change_of_willing {r : FaultyRoutes} (h : r.Willing) (c : RouteChange) :
    r.change c = ((r.table.changed c).1, { r.counted with table := (r.table.changed c).2 }) := by
  have none : r.fault? c.kind c.dump = none := by
    simp [fault?, reaches, h.1, h.2]
  rw [change, none]

@[simp] theorem failing_change (c : RouteChange) (r : FaultyRoutes) :
    (r.change c).2.failing = r.failing := by
  rw [change]
  split <;> rfl

@[simp] theorem refused_change (c : RouteChange) (r : FaultyRoutes) :
    (r.change c).2.refused = r.refused := by
  rw [change]
  split <;> rfl

private theorem reaches_of_fault? {r : FaultyRoutes} {kind : RouteKind} {dump : String}
    (h : r.fault? kind dump = none) : r.reaches = true := by
  cases hr : r.reaches with
  | true => rfl
  | false => simp [fault?, hr] at h

theorem change_eq_ok {r r' : FaultyRoutes} {c : RouteChange} (h : r.change c = (.ok (), r')) :
    r.reaches = true ∧ r.table.change c = .ok r'.table := by
  rw [change] at h
  cases hf : r.fault? c.kind c.dump with
  | some e => simp [hf] at h
  | none =>
      refine ⟨reaches_of_fault? hf, ?_⟩
      simp only [hf, RouteTable.changed] at h
      cases hc : r.table.change c with
      | error e => simp [hc] at h
      | ok table =>
          simp only [hc, Prod.mk.injEq, true_and] at h
          rw [← h]

theorem read_eq_ok {r r' : FaultyRoutes} {gateway : Ipv4} (h : r.read = (.ok gateway, r')) :
    r.reaches = true ∧ r.table.default = some gateway ∧ r' = r.counted := by
  rw [read] at h
  cases hf : r.fault? .readDefault "ReadDefault" with
  | some e => simp [hf] at h
  | none =>
      simp only [hf, RouteTable.readDefault, Prod.mk.injEq] at h
      obtain ⟨hread, rfl⟩ := h
      cases hd : r.table.default with
      | none => simp [hd] at hread
      | some known =>
          simp only [hd, Except.ok.injEq] at hread
          exact ⟨reaches_of_fault? hf, by rw [hread], rfl⟩

end FaultyRoutes

end TunnelClient
