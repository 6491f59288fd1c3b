import TunnelClient.Proofs.Route.Journal

/-!
# Going back

Going back from the detour.  The three calls are made whatever happens, the report names those that
failed, and once none of them is refused the table is the one before the detour, no matter what a
first attempt left.  Detours laid one over another are taken back in reverse order.
-/

namespace TunnelClient

/-- The table that a restoration aims at. -/
def RouteTable.restored (snapshot : RouteSnapshot) (t : RouteTable) : RouteTable :=
  ⟨some snapshot.former, eraseHost snapshot.peer t.hosts⟩

namespace Detour

/-- A restored table, seen from the one before: only the default route and the peer's differ. -/
structure Restored (snapshot : RouteSnapshot) (before after : RouteTable) : Prop where
  default : after.default = some snapshot.former
  peer : after.host? snapshot.peer = none
  others : ∀ host, host ≠ snapshot.peer → after.host? host = before.host? host

theorem restored_restored (snapshot : RouteSnapshot) (t : RouteTable) :
    Restored snapshot t (t.restored snapshot) where
  default := rfl
  peer := RouteTable.lookup_eraseHost snapshot.peer t.hosts
  others _ ne := RouteTable.lookup_eraseHost_of_ne ne t.hosts

/-! ## One restoration -/

section

variable {σ : Type} {R : Router σ} {table : σ → RouteTable} {refusals : σ → Nat} {s s' : σ}
  {snapshot : RouteSnapshot} {report : RestoreReport}

/-- A restoration makes three calls, each in the state that the one before has left. -/
inductive Restoration (R : Router σ) (snapshot : RouteSnapshot) (s : σ) :
    RestoreReport → σ → Prop
  | attempted {cleared restored removed : Except HostError Unit} {s₁ s₂ s' : σ}
      (clear : R.change .clearDefault s = (cleared, s₁))
      (set : R.change (.setDefault snapshot.former) s₁ = (restored, s₂))
      (remove : R.change (.clearHost snapshot.peer) s₂ = (removed, s')) :
      Restoration R snapshot s
        ⟨failure? .clearDefault cleared ++ failure? .restoreDefault restored
          ++ failure? .clearHostRoute removed⟩ s'

theorem restore_cases (R : Router σ) (snapshot : RouteSnapshot) (s : σ) :
    Restoration R snapshot s (restore R snapshot s).1 (restore R snapshot s).2 :=
  .attempted rfl rfl rfl

theorem Restoration.refusals_le (serves : R.Serves table refusals)
    (h : Restoration R snapshot s report s') : refusals s ≤ refusals s' := by
  cases h with
  | attempted clear set remove =>
      have first := refusals_le_of_serves serves clear
      have second := refusals_le_of_serves serves set
      have third := refusals_le_of_serves serves remove
      omega

/-- Whatever a restoration leaves, another one aims at the same table. -/
theorem Restoration.restored (serves : R.Serves table refusals)
    (h : Restoration R snapshot s report s') :
    (table s').restored snapshot = (table s).restored snapshot := by
  cases h with
  | @attempted _ _ _ s₁ s₂ _ clear set remove =>
      have hosts₁ : (table s₁).hosts = (table s).hosts := by
        rcases kept_or_made serves clear with kept | made
        · rw [kept]
        · rw [← Except.ok.inj made]
      have hosts₂ : (table s₂).hosts = (table s₁).hosts := by
        rcases kept_or_made serves set with kept | made
        · rw [kept]
        · rw [RouteTable.change_setDefault_eq_ok made]
      have erased : RouteTable.eraseHost snapshot.peer (table s').hosts =
          RouteTable.eraseHost snapshot.peer (table s₂).hosts := by
        rcases kept_or_made serves remove with kept | made
        · rw [kept]
        · rw [← Except.ok.inj made]
          exact RouteTable.eraseHost_eraseHost snapshot.peer (table s₂).hosts
      rw [RouteTable.restored, erased, hosts₂, hosts₁, RouteTable.restored]

theorem Restoration.table_of_clean (serves : R.Serves table refusals)
    (h : Restoration R snapshot s report s') (clean : report.isClean = true) :
    table s' = (table s).restored snapshot := by
  cases h with
  | @attempted cleared restored removed s₁ s₂ _ clear set remove =>
      cases cleared with
      | error e => cases clean
      | ok done =>
          cases restored with
          | error e => cases clean
          | ok done =>
              cases removed with
              | error e => cases clean
              | ok done =>
                  have cleared := (made_of_serves serves clear).1
                  have restored := (made_of_serves serves set).1
                  have removed := (made_of_serves serves remove).1
                  rw [← Except.ok.inj removed, RouteTable.change_setDefault_eq_ok restored,
                    ← Except.ok.inj cleared, RouteTable.restored]

theorem Restoration.made_of_unrefused (serves : R.Serves table refusals)
    (h : Restoration R snapshot s report s') (unrefused : refusals s' ≤ refusals s) :
    ∃ s₁ s₂, R.change .clearDefault s = (.ok (), s₁) ∧
      R.change (.setDefault snapshot.former) s₁ = (.ok (), s₂) ∧
      R.change (.clearHost snapshot.peer) s₂ = (.ok (), s') ∧ report = ⟨[]⟩ := by
  cases h with
  | @attempted _ _ _ s₁ s₂ _ clear set remove =>
      have first := refusals_le_of_serves serves clear
      have second := refusals_le_of_serves serves set
      have third := refusals_le_of_serves serves remove
      -- The default route could be denied, but not once the clearing before it has been made.
      obtain ⟨rfl, table₁⟩ := answered_of_serves (c := .clearDefault) serves rfl clear (by omega)
      have vacant : (table s₁).change (.setDefault snapshot.former) =
          .ok { table s₁ with default := some snapshot.former } := by
        rw [table₁]
        rfl
      obtain ⟨rfl, -⟩ := answered_of_serves serves vacant set (by omega)
      obtain ⟨rfl, -⟩ :=
        answered_of_serves (c := .clearHost snapshot.peer) serves rfl remove (by omega)
      exact ⟨s₁, s₂, clear, set, remove, rfl⟩

theorem Restoration.clean_of_unrefused (serves : R.Serves table refusals)
    (h : Restoration R snapshot s report s') (unrefused : refusals s' ≤ refusals s) :
    report = ⟨[]⟩ := by
  obtain ⟨-, -, -, -, -, clean⟩ := h.made_of_unrefused serves unrefused
  exact clean

end

/-! ## Reports -/

open RouteJournal

theorem Restoration.recorded {snapshot : RouteSnapshot} {report : RestoreReport}
    {j j' : RouteJournal} (h : Restoration router snapshot j report j') :
    ∃ made, j'.entries = j.entries ++ made ∧
      made.map RouteEvent.call =
        [.change .clearDefault, .change (.setDefault snapshot.former),
          .change (.clearHost snapshot.peer)] ∧
      report.failures =
        ([.clearDefault, .restoreDefault, .clearHostRoute].zip made).filterMap
          (fun (step, event) => event.failure?.map fun e => (step, e)) := by
  cases h with
  | @attempted cleared restored removed _ _ _ clear set remove =>
      have entries := entries_of_change remove
      rw [entries_of_change set, entries_of_change clear, List.append_assoc,
        List.append_assoc] at entries
      refine ⟨_, entries, rfl, ?_⟩
      cases cleared <;> cases restored <;> cases removed <;> rfl

/-- **A restoration reports what failed, and can be made again.**  There is one table that it aims
at: a clean report says that it is reached, and a later attempt reaches it as soon as none of its
calls is refused. -/
theorem restore_reports_failures (snapshot : RouteSnapshot) (j : RouteJournal) :
    ∃ made goal,
      (restore router snapshot j).2.entries = j.entries ++ made ∧
      made.map RouteEvent.call =
        [.change .clearDefault, .change (.setDefault snapshot.former),
          .change (.clearHost snapshot.peer)] ∧
      (restore router snapshot j).1.failures =
        ([.clearDefault, .restoreDefault, .clearHostRoute].zip made).filterMap
          (fun (step, event) => event.failure?.map fun e => (step, e)) ∧
      Restored snapshot j.routes.table goal ∧
      ((restore router snapshot j).1.isClean = true →
        (restore router snapshot j).2.routes.table = goal) ∧
      ∀ again : RouteJournal,
        again.routes.table = (restore router snapshot j).2.routes.table →
        (restore router snapshot again).2.refusals = again.refusals →
          (restore router snapshot again).1.isClean = true ∧
            (restore router snapshot again).2.routes.table = goal := by
  have course := restore_cases router snapshot j
  have reached := course.table_of_clean serves_router
  obtain ⟨made, entries, calls, failures⟩ := course.recorded
  refine ⟨made, _, entries, calls, failures, restored_restored snapshot j.routes.table, reached, ?_⟩
  intro again same unrefused
  have course' := restore_cases router snapshot again
  have clean := course'.clean_of_unrefused serves_router (Nat.le_of_eq unrefused)
  have clean' : (restore router snapshot again).1.isClean = true := by
    rw [clean]
    rfl
  refine ⟨clean', ?_⟩
  rw [course'.table_of_clean serves_router clean', same, course.restored serves_router]

def outing : RouteSnapshot := ⟨⟨0xC0A80101⟩, ⟨0x0A080001⟩, ⟨0xCB007105⟩⟩

/-- A table on the detour that will clear nothing. -/
def stuck : RouteJournal :=
  { routes :=
      { table := ⟨some outing.tunnel, [(outing.peer, outing.former)]⟩
        failing := [.clearDefault, .clearHost] } }

theorem restore_reports_failures_stuck :
    (restore router outing stuck).1.failures.map Prod.fst =
        [.clearDefault, .restoreDefault, .clearHostRoute] ∧
      (restore router outing
        { routes := { table := (restore router outing stuck).2.routes.table } }).1.isClean =
        true := by
  obtain ⟨made, goal, -, -, -, -, -, again⟩ := restore_reports_failures outing stuck
  have retried := again { routes := { table := (restore router outing stuck).2.routes.table } } rfl
    (by decide)
  exact ⟨by decide, retried.1⟩

end Detour

end TunnelClient
