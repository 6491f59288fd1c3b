import TunnelClient.Proofs.Route.Detour

/-!
# The record of route calls

What the record of the calls on a routing table tells: which were made, which of them failed, and
which were refused before the table could answer.
-/

namespace TunnelClient

/-! ## Recorded calls -/

namespace RouteEvent

def call : RouteEvent → RouteCall
  | read _ _ => .read
  | change _ c _ => .change c

def failure? : RouteEvent → Option HostError
  | read _ (.error e) | change _ _ (.error e) => some e
  | read _ (.ok _) | change _ _ (.ok _) => none

def isRefusal (event : RouteEvent) : Bool := event.failure?.any HostError.isRefusal

theorem ok_of_failure? {reached : Bool} {c : RouteChange} {outcome : Except HostError Unit}
    (h : (change reached c outcome).failure? = none) : outcome = .ok () := by
  cases outcome with
  | ok done => rfl
  | error e => cases h

end RouteEvent

theorem Router.serves_of_counting {σ : Type} {R : Router σ} (routes : σ → FaultyRoutes)
    {refusals : σ → Nat}
    (read : ∀ s, (R.read s).1 = (routes s).read.1 ∧ routes (R.read s).2 = (routes s).read.2 ∧
      refusals (R.read s).2 = refusals s +
        if (RouteEvent.read (routes s).reaches (R.read s).1).isRefusal then 1 else 0)
    (change : ∀ c s, (R.change c s).1 = ((routes s).change c).1 ∧
      routes (R.change c s).2 = ((routes s).change c).2 ∧
      refusals (R.change c s).2 = refusals s +
        if (RouteEvent.change (routes s).reaches c (R.change c s).1).isRefusal then 1 else 0) :
    R.Serves (fun s => (routes s).table) refusals := by
  constructor
  · intro s
    obtain ⟨outcome, next, count⟩ := read s
    rw [next, outcome] at *
    rcases (routes s).read_cases with ⟨e, refused, why⟩ | answered
    · rw [refused] at count ⊢
      exact ⟨rfl, .inl ⟨⟨e, rfl⟩, by simp [count, RouteEvent.isRefusal, RouteEvent.failure?, why]⟩⟩
    · rw [answered] at count ⊢
      refine ⟨rfl, .inr ⟨rfl, ?_⟩⟩
      cases answer : (routes s).table.readDefault with
      | ok gateway => simp [count, answer, RouteEvent.isRefusal, RouteEvent.failure?]
      | error e =>
          simp [count, answer, RouteEvent.isRefusal, RouteEvent.failure?,
            RouteTable.isRefusal_readDefault answer]
  · intro c s
    obtain ⟨outcome, next, count⟩ := change c s
    rw [next, outcome] at *
    rcases (routes s).change_cases c with ⟨e, refused, why⟩ | answered
    · rw [refused] at count ⊢
      exact .inl ⟨⟨e, rfl⟩, rfl, by simp [count, RouteEvent.isRefusal, RouteEvent.failure?, why]⟩
    · rw [answered] at count ⊢
      refine .inr ⟨rfl, ?_⟩
      cases answer : (routes s).table.changed c with
      | mk outcome table =>
          cases outcome with
          | ok done => simp [count, answer, RouteEvent.isRefusal, RouteEvent.failure?]
          | error e =>
              simp [count, answer, RouteEvent.isRefusal, RouteEvent.failure?,
                RouteTable.isRefusal_changed answer]

namespace RouteJournal

def refusals (j : RouteJournal) : Nat := j.entries.countP RouteEvent.isRefusal

variable {j j' : RouteJournal} {c : RouteChange}

theorem entries_read (j : RouteJournal) : (router.read j).2.entries =
    j.entries ++ [.read j.routes.reaches (router.read j).1] := rfl

theorem entries_change (c : RouteChange) (j : RouteJournal) : (router.change c j).2.entries =
    j.entries ++ [.change j.routes.reaches c (router.change c j).1] := rfl

theorem entries_of_read {outcome : Except HostError Ipv4} (h : router.read j = (outcome, j')) :
    j'.entries = j.entries ++ [.read j.routes.reaches outcome] := by
  have recorded := entries_read j
  rwa [h] at recorded

theorem entries_of_change {outcome : Except HostError Unit}
    (h : router.change c j = (outcome, j')) :
    j'.entries = j.entries ++ [.change j.routes.reaches c outcome] := by
  have recorded := entries_change c j
  rwa [h] at recorded

theorem serves_router : router.Serves (fun j => j.routes.table) refusals :=
  Router.serves_of_counting RouteJournal.routes
    (fun j => ⟨rfl, rfl, by
      rw [refusals, entries_read, List.countP_append, List.countP_singleton]
      rfl⟩)
    (fun c j => ⟨rfl, rfl, by
      rw [refusals, entries_change, List.countP_append, List.countP_singleton]
      rfl⟩)

end RouteJournal

end TunnelClient
