import TunnelClient.Proofs.Route.Restore

/-!
# Detours over detours

Detours laid one over another: each moves the default route away from the gateway that the one
before it has set.  Taken back in reverse order, they give every earlier table back.
-/

namespace TunnelClient

namespace Detour

variable {σ : Type}

/-- Installs detours for peers, each through its tunnel's gateway, until one fails; the snapshots
are in the order of the installations. -/
def installAll (R : Router σ) :
    List (Ipv4 × Ipv4) → σ → Except HostError (List RouteSnapshot) × σ
  | [], s => (.ok [], s)
  | (peer, tunnel) :: errands, s =>
    match install R peer tunnel s with
    | (.error e, s) => (.error e, s)
    | (.ok snapshot, s) =>
      let (outcome, s) := installAll R errands s
      (outcome.map (snapshot :: ·), s)

def restoreAll (R : Router σ) : List RouteSnapshot → σ → List RestoreReport × σ
  | [], s => ([], s)
  | snapshot :: snapshots, s =>
    let (report, s) := restore R snapshot s
    let (reports, s) := restoreAll R snapshots s
    (report :: reports, s)

variable {R : Router σ} {table : σ → RouteTable} {refusals : σ → Nat} {s s' : σ}
  {peer tunnel : Ipv4} {snapshot : RouteSnapshot} {snapshots : List RouteSnapshot}
  {errands first rest : List (Ipv4 × Ipv4)}

theorem installAll_cons (h : installAll R ((peer, tunnel) :: errands) s = (.ok snapshots, s')) :
    ∃ snapshot later s₁, snapshots = snapshot :: later ∧
      install R peer tunnel s = (.ok snapshot, s₁) ∧
      installAll R errands s₁ = (.ok later, s') := by
  rw [installAll] at h
  cases hfirst : install R peer tunnel s with
  | mk outcome s₁ =>
      cases outcome with
      | error e =>
          rw [hfirst] at h
          cases h
      | ok snapshot =>
          rw [hfirst] at h
          cases hrest : installAll R errands s₁ with
          | mk outcome s₂ =>
              cases outcome with
              | error e =>
                  simp only [hrest] at h
                  cases h
              | ok later =>
                  simp only [hrest] at h
                  cases h
                  exact ⟨snapshot, later, s₁, rfl, rfl, hrest⟩

theorem length_of_installAll (h : installAll R errands s = (.ok snapshots, s')) :
    snapshots.length = errands.length := by
  induction errands generalizing s snapshots with
  | nil =>
      cases h
      rfl
  | cons errand errands ih =>
      obtain ⟨snapshot, later, s₁, rfl, -, hrest⟩ := installAll_cons h
      rw [List.length_cons, List.length_cons, ih hrest]

theorem installAll_append (h : installAll R (first ++ rest) s = (.ok snapshots, s')) :
    ∃ earlier later s₁, snapshots = earlier ++ later ∧
      installAll R first s = (.ok earlier, s₁) ∧ installAll R rest s₁ = (.ok later, s') := by
  induction first generalizing s snapshots with
  | nil => exact ⟨[], snapshots, s, rfl, rfl, h⟩
  | cons errand first ih =>
      obtain ⟨snapshot, others, s₁, rfl, hinstall, hrest⟩ := installAll_cons h
      obtain ⟨earlier, later, s₂, rfl, hfirst, hlast⟩ := ih hrest
      refine ⟨snapshot :: earlier, later, s₂, rfl, ?_, hlast⟩
      simp only [installAll, hinstall, hfirst]
      rfl

theorem restoreAll_append (R : Router σ) (earlier later : List RouteSnapshot) (s : σ) :
    restoreAll R (earlier ++ later) s =
      ((restoreAll R earlier s).1 ++ (restoreAll R later (restoreAll R earlier s).2).1,
        (restoreAll R later (restoreAll R earlier s).2).2) := by
  induction earlier generalizing s with
  | nil => rfl
  | cons snapshot earlier ih => simp only [List.cons_append, restoreAll, ih]

private theorem refusals_le_restoreAll (serves : R.Serves table refusals)
    (snapshots : List RouteSnapshot)
    (s : σ) : refusals s ≤ refusals (restoreAll R snapshots s).2 := by
  induction snapshots generalizing s with
  | nil => exact Nat.le_refl _
  | cons snapshot snapshots ih =>
      have first := (restore_cases R snapshot s).refusals_le serves
      exact Nat.le_trans first (ih (restore R snapshot s).2)

/-- A restoration aims at the table that the installation found. -/
theorem restored_of_install (serves : R.Serves table refusals)
    (h : install R peer tunnel s = (.ok snapshot, s')) :
    (table s').restored snapshot = table s := by
  obtain ⟨-, rfl, default, fresh, moved⟩ := moved_of_serves serves h
  rw [RouteTable.restored, moved, RouteTable.eraseHost_insertHost,
    RouteTable.eraseHost_of_lookup fresh, ← default]

theorem restore_undoes_install (serves : R.Serves table refusals) {t : σ}
    (h : install R peer tunnel s = (.ok snapshot, s')) (same : table t = table s')
    (unrefused : refusals (restore R snapshot t).2 ≤ refusals t) :
    (restore R snapshot t).1 = ⟨[]⟩ ∧ table (restore R snapshot t).2 = table s := by
  have course := restore_cases R snapshot t
  have clean := course.clean_of_unrefused serves unrefused
  refine ⟨clean, ?_⟩
  rw [course.table_of_clean serves (by rw [clean]; rfl), same, restored_of_install serves h]

theorem restoreAll_undoes_installAll (serves : R.Serves table refusals) {t : σ}
    (h : installAll R errands s = (.ok snapshots, s')) (same : table t = table s')
    (unrefused : refusals (restoreAll R snapshots.reverse t).2 ≤ refusals t) :
    (restoreAll R snapshots.reverse t).1 = List.replicate errands.length ⟨[]⟩ ∧
      table (restoreAll R snapshots.reverse t).2 = table s := by
  induction errands generalizing s snapshots t with
  | nil =>
      cases h
      exact ⟨rfl, same⟩
  | cons errand errands ih =>
      obtain ⟨snapshot, later, s₁, rfl, hinstall, hrest⟩ := installAll_cons h
      simp only [List.reverse_cons, restoreAll_append] at unrefused ⊢
      -- The later detours go first; no call of theirs is refused, nor of the last restoration.
      have within := refusals_le_restoreAll serves [snapshot] (restoreAll R later.reverse t).2
      have before := refusals_le_restoreAll serves later.reverse t
      obtain ⟨reports, undone⟩ := ih hrest same (by omega)
      have last : refusals (restoreAll R [snapshot] (restoreAll R later.reverse t).2).2 ≤
          refusals (restoreAll R later.reverse t).2 := by omega
      obtain ⟨clean, back⟩ := restore_undoes_install serves hinstall undone last
      constructor
      · rw [List.length_cons, List.replicate_succ', ← reports, ← clean]
        rfl
      · exact back

/-! ## Any depth -/

open RouteJournal

/-- **Restoring the last detours of a stack, newest first, gives the table before them back**, and
restoring all of them the first one. -/
theorem stack_unwinds {j j' again : RouteJournal} {m : Nat}
    (installed : installAll router errands j = (.ok snapshots, j'))
    (same : again.routes.table = j'.routes.table) (depth : m ≤ errands.length)
    (unrefused : (restoreAll router (snapshots.reverse.take m) again).2.refusals =
      again.refusals) :
    (restoreAll router (snapshots.reverse.take m) again).1 = List.replicate m ⟨[]⟩ ∧
      (∃ earlier, installAll router (errands.take (errands.length - m)) j =
          (.ok (snapshots.take (errands.length - m)), earlier) ∧
        (restoreAll router (snapshots.reverse.take m) again).2.routes.table =
          earlier.routes.table) ∧
      (m = errands.length →
        (restoreAll router (snapshots.reverse.take m) again).2.routes.table =
          j.routes.table) := by
  rw [← List.take_append_drop (errands.length - m) errands] at installed
  obtain ⟨earlier, later, j₁, rfl, hfirst, hlast⟩ := installAll_append installed
  have length₁ := length_of_installAll hfirst
  have length₂ := length_of_installAll hlast
  simp only [List.length_take, List.length_drop] at length₁ length₂
  have newest : (earlier ++ later).reverse.take m = later.reverse := by
    rw [List.reverse_append]
    apply List.take_left'
    rw [List.length_reverse]
    omega
  have oldest : (earlier ++ later).take (errands.length - m) = earlier := by
    apply List.take_left'
    omega
  rw [newest] at unrefused ⊢
  rw [oldest]
  obtain ⟨reports, back⟩ :=
    restoreAll_undoes_installAll serves_router hlast same (Nat.le_of_eq unrefused)
  refine ⟨?_, ⟨j₁, hfirst, back⟩, ?_⟩
  · rw [reports, List.length_drop]
    congr
    omega
  · intro whole
    subst whole
    rw [Nat.sub_self, List.take_zero] at hfirst
    cases hfirst
    exact back

/-- Three peers behind two tunnels, the first of which is used twice. -/
def errandsOut : List (Ipv4 × Ipv4) :=
  [(⟨0xCB007105⟩, ⟨0x0A080001⟩), (⟨0xCB007106⟩, ⟨0x0A090001⟩), (⟨0xCB007107⟩, ⟨0x0A080001⟩)]

def ground : RouteJournal :=
  { routes := { table := ⟨some ⟨0xC0A80101⟩, [(⟨0x01020304⟩, ⟨0xC0A80102⟩)]⟩, refused := [19] } }

theorem stack_unwinds_errandsOut :
    ∃ snapshots away, installAll router errandsOut ground = (.ok snapshots, away) ∧
      (restoreAll router (snapshots.reverse.take 2) away).1 = [⟨[]⟩, ⟨[]⟩] ∧
      (restoreAll router (snapshots.reverse.take 2) away).2.routes.table =
        (installAll router (errandsOut.take 1) ground).2.routes.table := by
  have installed : installAll router errandsOut ground = (.ok _, _) := rfl
  obtain ⟨clean, ⟨earlier, before, back⟩, -⟩ :=
    stack_unwinds (m := 2) installed rfl (by decide) (by decide)
  refine ⟨_, _, installed, clean, ?_⟩
  rw [back]
  change installAll router (errandsOut.take 1) ground = _ at before
  rw [before]

end Detour

end TunnelClient
