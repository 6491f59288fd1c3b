import TunnelClient.Proofs.Route.Journal

/-!
# All or nothing

An installation of the detour is made whole or undone.  What one that fails leaves behind can be
read off the calls it made: only undoing that failed as well leaves anything.
-/

namespace TunnelClient

namespace RouteEvent

def rollback (made : List RouteEvent) : List RouteEvent :=
  (made.dropWhile fun event => event.failure?.isNone).tail

def isFailedDefault : RouteEvent → Bool
  | change _ (.setDefault _) (.error _) => true
  | _ => false

def failedDefaults (made : List RouteEvent) : Nat := made.countP isFailedDefault

end RouteEvent

namespace RouteJournal

variable {j j' : RouteJournal} {c : RouteChange} {t : RouteTable} {e : HostError}

private theorem isRefusal_of_possible (possible : j.routes.table.change c = .ok t)
    (failed : router.change c j = (.error e, j')) : e.isRefusal = true := by
  have outcome : (j.routes.change c).1 = .error e := congrArg Prod.fst failed
  rcases j.routes.change_cases c with ⟨e', refused, why⟩ | answered
  · rw [refused] at outcome
    cases outcome
    exact why
  · rw [answered, RouteTable.changed, possible] at outcome
    cases outcome

private theorem made_or_refused {outcome : Except HostError Unit}
    (possible : j.routes.table.change c = .ok t) (called : router.change c j = (outcome, j')) :
    outcome = .ok () ∧ j'.routes.table = t ∨
      ∃ e, outcome = .error e ∧ e.isRefusal = true ∧ j'.routes.table = j.routes.table := by
  cases outcome with
  | ok done =>
      have made := (Detour.made_of_serves serves_router called).1
      rw [possible] at made
      exact .inl ⟨rfl, (Except.ok.inj made).symm⟩
  | error e =>
      have kept := (Detour.refused_of_serves serves_router possible called).1
      exact .inr ⟨e, rfl, isRefusal_of_possible possible called, kept⟩

end RouteJournal

namespace Detour

open RouteEvent RouteJournal

/-- The host routes are the former ones, or the peer's new one is still among them because it could
not be taken back. -/
def HostsUndone (peer : Ipv4) (before after : RouteTable) (undoing : List RouteEvent) : Prop :=
  after.hosts = before.hosts ∨
    (before.host? peer = none ∧
      (∃ former, after.hosts = RouteTable.insertHost peer former before.hosts) ∧
      ∃ event ∈ undoing, event.call = .change (.clearHost peer) ∧ event.isRefusal = true)

/-- What an installation that failed with `e` leaves of a table, by the calls it made. -/
structure RolledBack (peer tunnel : Ipv4) (before after : RouteTable) (made : List RouteEvent)
    (e : HostError) : Prop where
  first : made.findSome? RouteEvent.failure? = some e
  others : ∀ host, host ≠ peer → after.host? host = before.host? host
  known : ∀ gateway, before.host? peer = some gateway → after.host? peer = some gateway
  added : after.host? peer ≠ before.host? peer →
    ∃ event ∈ rollback made, event.call = .change (.clearHost peer) ∧ event.isRefusal = true
  default : after.default = if failedDefaults made = 2 then none else before.default
  tunnel : after.default = some tunnel → before.default = some tunnel
  exact : (∀ event ∈ rollback made, event.failure? = none) → after = before

/-- What an installation that succeeded has made of a table. -/
structure Diverted (peer tunnel : Ipv4) (before after : RouteTable) (snapshot : RouteSnapshot) :
    Prop where
  ends : snapshot.peer = peer ∧ snapshot.tunnel = tunnel
  former : before.default = some snapshot.former
  default : after.default = some tunnel
  pinned : after.host? peer = some snapshot.former
  others : ∀ host, host ≠ peer → after.host? host = before.host? host

variable {peer tunnel former : Ipv4} {before after : RouteTable} {made undoing : List RouteEvent}
  {e : HostError} {j j' : RouteJournal}

theorem HostsUndone.others (undone : HostsUndone peer before after undoing) (host : Ipv4)
    (ne : host ≠ peer) : after.host? host = before.host? host := by
  rcases undone with same | ⟨-, ⟨former, hosts⟩, -⟩
  · rw [RouteTable.host?, same, RouteTable.host?]
  · rw [RouteTable.host?, hosts, RouteTable.lookup_insertHost_of_ne ne, RouteTable.host?]

theorem HostsUndone.known (undone : HostsUndone peer before after undoing) (gateway : Ipv4)
    (known : before.host? peer = some gateway) : after.host? peer = some gateway := by
  rcases undone with same | ⟨fresh, -, -⟩
  · rw [RouteTable.host?, same]
    exact known
  · rw [fresh] at known
    cases known

theorem HostsUndone.added (undone : HostsUndone peer before after undoing)
    (differ : after.host? peer ≠ before.host? peer) :
    ∃ event ∈ undoing, event.call = .change (.clearHost peer) ∧ event.isRefusal = true := by
  rcases undone with same | ⟨-, -, refused⟩
  · exact absurd (by rw [RouteTable.host?, same, RouteTable.host?]) differ
  · exact refused

private theorem HostsUndone.rolledBack (undone : HostsUndone peer before after (rollback made))
    (first : made.findSome? RouteEvent.failure? = some e)
    (default : after.default = if failedDefaults made = 2 then none else before.default)
    (whole : (∀ event ∈ rollback made, event.failure? = none) →
      failedDefaults made ≠ 2 ∧ after.hosts = before.hosts) :
    RolledBack peer tunnel before after made e where
  first := first
  others := undone.others
  known := undone.known
  added := undone.added
  default := default
  tunnel set := by
    rw [default] at set
    split at set
    · cases set
    · exact set
  exact done := by
    obtain ⟨once, hosts⟩ := whole done
    rw [if_neg once] at default
    exact RouteTable.ext default hosts

private theorem rolledBack_of_untouched (first : made.findSome? RouteEvent.failure? = some e)
    (unset : failedDefaults made = 0) (same : after = before) :
    RolledBack peer tunnel before after made e := by
  subst same
  apply HostsUndone.rolledBack (.inl rfl) first
  · simp [unset]
  · intro
    simp [unset]

/-! ## Undoing -/

private theorem undone_of_clearHost {outcome : Except HostError Unit} {reached : Bool}
    (fresh : before.host? peer = none)
    (pinned : j.routes.table.hosts = RouteTable.insertHost peer former before.hosts)
    (called : router.change (.clearHost peer) j = (outcome, j'))
    (mem : .change reached (.clearHost peer) outcome ∈ undoing) :
    HostsUndone peer before j'.routes.table undoing ∧
      (outcome = .ok () → j'.routes.table.hosts = before.hosts) := by
  rcases made_or_refused (c := .clearHost peer) rfl called with ⟨rfl, table⟩ | ⟨e, rfl, why, table⟩
  · have hosts : j'.routes.table.hosts = before.hosts := by
      rw [table, pinned, RouteTable.eraseHost_insertHost, RouteTable.eraseHost_of_lookup fresh]
    exact ⟨.inl hosts, fun _ => hosts⟩
  · refine ⟨.inr ⟨fresh, ⟨former, ?_⟩, _, mem, rfl, why⟩, fun done => ?_⟩
    · rw [table, pinned]
    · cases done

/-! ## Endings -/

variable {j₁ j₂ j₃ j₄ : RouteJournal}

private theorem rolledBack_of_uncleared (tunnel : Ipv4) (read : router.read j = (.ok former, j₁))
    (host : router.change (.setHost former peer) j₁ = (.ok (), j₂))
    (clear : router.change .clearDefault j₂ = (.error e, j₃)) :
    ∃ made, (router.change (.clearHost peer) j₃).2.entries = j.entries ++ made ∧
      RolledBack peer tunnel j.routes.table (router.change (.clearHost peer) j₃).2.routes.table
        made e := by
  obtain ⟨default, fresh, table₂, -⟩ := pinned_of_serves serves_router read host
  have table₃ := table_of_change_eq_error serves_router clear
  cases undo : router.change (.clearHost peer) j₃ with
  | mk outcome j₄ =>
      have entries := entries_of_change undo
      rw [entries_of_change clear, entries_of_change host, entries_of_read read] at entries
      simp only [List.append_assoc, List.cons_append, List.nil_append] at entries
      have pinned : j₃.routes.table.hosts =
          RouteTable.insertHost peer former j.routes.table.hosts := by rw [table₃, table₂]
      obtain ⟨undone, whole⟩ := undone_of_clearHost fresh pinned undo List.mem_cons_self
      refine ⟨_, entries, undone.rolledBack rfl ?_ ?_⟩
      · change j₄.routes.table.default = j.routes.table.default
        rw [default_of_clearHost serves_router undo, table₃, table₂, default]
      · intro done
        have undid := ok_of_failure? (done _ List.mem_cons_self)
        exact ⟨by simp [failedDefaults, isFailedDefault], whole undid⟩

private theorem rolledBack_of_unset (read : router.read j = (.ok former, j₁))
    (host : router.change (.setHost former peer) j₁ = (.ok (), j₂))
    (clear : router.change .clearDefault j₂ = (.ok (), j₃))
    (set : router.change (.setDefault tunnel) j₃ = (.error e, j₄)) :
    ∃ made, (router.change (.clearHost peer) (router.change (.setDefault former) j₄).2).2.entries =
        j.entries ++ made ∧
      RolledBack peer tunnel j.routes.table
        (router.change (.clearHost peer) (router.change (.setDefault former) j₄).2).2.routes.table
        made e := by
  obtain ⟨default, fresh, table₃, -⟩ := cleared_of_serves serves_router read host clear
  have table₄ := table_of_change_eq_error serves_router set
  have vacant : j₄.routes.table.default = none := by rw [table₄, table₃]
  cases reset : router.change (.setDefault former) j₄ with
  | mk outcome₁ j₅ =>
      cases undo : router.change (.clearHost peer) j₅ with
      | mk outcome₂ j₆ =>
          have entries := entries_of_change undo
          rw [entries_of_change reset, entries_of_change set, entries_of_change clear,
            entries_of_change host, entries_of_read read] at entries
          simp only [List.append_assoc, List.cons_append, List.nil_append] at entries
          obtain ⟨hosts₅, default₅⟩ := default_of_setDefault serves_router vacant reset
          have pinned : j₅.routes.table.hosts =
              RouteTable.insertHost peer former j.routes.table.hosts := by
            rw [hosts₅, table₄, table₃]
          obtain ⟨undone, whole⟩ := undone_of_clearHost fresh pinned undo
            (List.mem_cons_of_mem _ List.mem_cons_self)
          refine ⟨_, entries, undone.rolledBack rfl ?_ ?_⟩
          · -- Only when the second setting failed as well are there two failures to count.
            rw [default_of_clearHost serves_router undo]
            rcases default₅ with ⟨rfl, back⟩ | ⟨⟨e, rfl⟩, gone⟩
            · exact back.trans default.symm
            · exact gone
          · intro done
            have restored := ok_of_failure? (done _ List.mem_cons_self)
            have undid := ok_of_failure? (done _ (List.mem_cons_of_mem _ List.mem_cons_self))
            subst restored
            exact ⟨by simp [failedDefaults, isFailedDefault, List.countP_cons], whole undid⟩

private theorem rolledBack_of_installation
    (ended : Installation router peer tunnel j (.error e) j') :
    ∃ made, j'.entries = j.entries ++ made ∧
      RolledBack peer tunnel j.routes.table j'.routes.table made e := by
  cases ended with
  | unread read =>
      have kept := (serves_router.read j).1
      rw [read] at kept
      exact ⟨_, entries_of_read read, rolledBack_of_untouched rfl rfl kept⟩
  | @unpinned former _ j₁ _ read host =>
      have entries := entries_of_change host
      rw [entries_of_read read, List.append_assoc] at entries
      have kept₁ := (serves_router.read j).1
      rw [read] at kept₁
      have kept₂ := table_of_change_eq_error serves_router host
      exact ⟨_, entries, rolledBack_of_untouched rfl rfl (kept₂.trans kept₁)⟩
  | uncleared read host clear => exact rolledBack_of_uncleared tunnel read host clear
  | unset read host clear set => exact rolledBack_of_unset read host clear set

private theorem diverted_of_install {snapshot : RouteSnapshot}
    (h : install router peer tunnel j = (.ok snapshot, j')) :
    Diverted peer tunnel j.routes.table j'.routes.table snapshot := by
  obtain ⟨tunnelled, pinned, default, fresh, table⟩ := moved_of_serves serves_router h
  rw [table]
  exact
    { ends := ⟨pinned, tunnelled⟩
      former := default
      default := rfl
      pinned := RouteTable.lookup_insertHost fresh snapshot.former
      others := fun host ne => RouteTable.lookup_insertHost_of_ne ne _ _ }

theorem exists_made (peer tunnel : Ipv4) (j : RouteJournal) :
    ∃ made, (install router peer tunnel j).2.entries = j.entries ++ made := by
  apply install_keeps (P := fun j' : RouteJournal => ∃ made, j'.entries = j.entries ++ made)
  · rintro j' ⟨made, entries⟩
    exact ⟨_, by rw [entries_read, entries, List.append_assoc]⟩
  · rintro c j' ⟨made, entries⟩
    exact ⟨_, by rw [entries_change, entries, List.append_assoc]⟩
  · exact ⟨[], (List.append_nil _).symm⟩

/-- **An installation is made whole or undone**, but for undoing that is refused. -/
theorem diverted_or_rolled_back (peer tunnel : Ipv4) (j : RouteJournal) :
    ∃ made, (install router peer tunnel j).2.entries = j.entries ++ made ∧
      (∀ e, (install router peer tunnel j).1 = .error e →
        RolledBack peer tunnel j.routes.table (install router peer tunnel j).2.routes.table made
          e) ∧
      ∀ snapshot, (install router peer tunnel j).1 = .ok snapshot →
        Diverted peer tunnel j.routes.table (install router peer tunnel j).2.routes.table
          snapshot := by
  cases h : install router peer tunnel j with
  | mk outcome j' =>
      cases outcome with
      | error e =>
          obtain ⟨made, entries, rolledBack⟩ := rolledBack_of_installation (installation_of_eq h)
          refine ⟨made, entries, ?_, nofun⟩
          rintro _ ⟨⟩
          exact rolledBack
      | ok snapshot =>
          obtain ⟨made, entries⟩ := exists_made peer tunnel j
          rw [h] at entries
          refine ⟨made, entries, nofun, ?_⟩
          rintro _ ⟨⟩
          exact diverted_of_install h

/-- Nothing that is undone succeeds: the default route is gone, and the peer's new one is left. -/
example :
    (install FaultyRoutes.router ⟨0xCB007105⟩ ⟨0x0A080001⟩
      { table := ⟨some ⟨0xC0A80101⟩, []⟩, refused := [3, 4, 5] }).2.table =
      ⟨none, [(⟨0xCB007105⟩, ⟨0xC0A80101⟩)]⟩ := by
  decide

end Detour

end TunnelClient
