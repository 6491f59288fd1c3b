import Mathlib.Data.List.Nodup

/-!
# Accounts of calls

Accounts of calls and of what they are handed.  Every call begun is pending or has ended, once.
What comes in waits in a queue until a caller takes the oldest, cut to the room that the caller has.
-/

namespace TunnelClient

def Once (pending ended : List Nat) (begun : Nat) : Prop :=
  (pending ++ ended).Perm (List.range begun)

namespace Once

variable {pending ended : List Nat} {begun call : Nat}

theorem nodup (h : Once pending ended begun) : (pending ++ ended).Nodup :=
  h.nodup_iff.mpr List.nodup_range

theorem lt (h : Once pending ended begun) (mem : call ∈ pending ++ ended) : call < begun :=
  List.mem_range.mp (h.mem_iff.mp mem)

theorem fresh (h : Once pending ended begun) : begun ∉ pending := fun mem =>
  Nat.lt_irrefl _ (h.lt (List.mem_append_left _ mem))

theorem begin (h : Once pending ended begun) : Once (pending ++ [begun]) ended (begun + 1) := by
  have moved : (pending ++ [begun] ++ ended).Perm (pending ++ ended ++ [begun]) := by
    rw [List.append_assoc, List.append_assoc]
    exact List.perm_append_comm.append_left pending
  rw [Once, List.range_succ]
  exact moved.trans (h.append_right [begun])

theorem refuse (h : Once pending ended begun) : Once pending (ended ++ [begun]) (begun + 1) := by
  rw [Once, List.range_succ, ← List.append_assoc]
  exact h.append_right [begun]

theorem finish (h : Once pending ended begun) (mem : call ∈ pending) :
    Once (pending.filter (· != call)) (ended ++ [call]) begun := by
  have one : pending.Perm (call :: pending.filter (· != call)) := by
    rw [← (List.nodup_append.mp h.nodup).1.erase_eq_filter call]
    exact List.perm_cons_erase mem
  refine List.Perm.trans ?_ h
  rw [← List.append_assoc]
  exact (List.perm_append_singleton call _).trans (one.symm.append_right ended)

end Once

structure Handover where
  caller : Nat
  capacity : Nat
  item : List UInt8

namespace Handover

def given (h : Handover) : Nat × List UInt8 := (h.caller, h.item.take h.capacity)

end Handover

/-- What has come is queued or was taken, in the order in which it came and each item once.  Each
one taken went to one of the callers, cut to its capacity. -/
def HandedOver (callers : List (Nat × Nat)) (come queued : List (List UInt8))
    (taken : List (Nat × List UInt8)) : Prop :=
  ∃ handovers : List Handover, handovers.map Handover.item ++ queued = come ∧
    taken = handovers.map Handover.given ∧
    ∀ h ∈ handovers, (h.caller, h.capacity) ∈ callers

namespace HandedOver

variable {callers : List (Nat × Nat)} {come queued : List (List UInt8)}
  {taken : List (Nat × List UInt8)}

theorem start (callers : List (Nat × Nat)) : HandedOver callers [] [] [] :=
  ⟨[], rfl, rfl, fun _ none => nomatch none⟩

theorem add (h : HandedOver callers come queued taken) (item : List UInt8) :
    HandedOver callers (come ++ [item]) (queued ++ [item]) taken := by
  obtain ⟨handovers, together, given, known⟩ := h
  exact ⟨handovers, by rw [← List.append_assoc, together], given, known⟩

theorem take {item : List UInt8} {rest : List (List UInt8)} {caller capacity : Nat}
    (h : HandedOver callers come (item :: rest) taken) (known : (caller, capacity) ∈ callers) :
    HandedOver callers come rest (taken ++ [(caller, item.take capacity)]) := by
  obtain ⟨handovers, together, given, earlier⟩ := h
  refine ⟨handovers ++ [⟨caller, capacity, item⟩], ?_, ?_, ?_⟩
  · rw [List.map_append, List.append_assoc, ← together]
    rfl
  · rw [List.map_append, given]
    rfl
  · intro h mem
    rcases List.mem_append.mp mem with mem | mem
    · exact earlier h mem
    · cases List.mem_singleton.mp mem
      exact known

theorem mono {more : List (Nat × Nat)} (h : HandedOver callers come queued taken)
    (subset : callers ⊆ more) : HandedOver more come queued taken := by
  obtain ⟨handovers, together, given, known⟩ := h
  exact ⟨handovers, together, given, fun h mem => subset (known h mem)⟩

end HandedOver

end TunnelClient
