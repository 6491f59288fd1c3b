import TunnelClient.Proofs.Route.Table
import TunnelClient.Route.Detour

/-!
# Installing a detour

How an installation of the detour can end, call by call, over any routing table that
either refuses a call or answers it.  One that fails has undone what it did, unless its
undoing was refused as well.
-/

namespace TunnelClient

/-! ## Refusals -/

def HostError.isRefusal : HostError → Bool
  | .routeCommandFailed _ reason => reason == "refused" || reason == "injected failure"
  | _ => false

theorem RouteTable.isRefusal_readDefault {t : RouteTable} {e : HostError}
    (h : t.readDefault = .error e) : e.isRefusal = false := by
  rw [readDefault] at h
  split at h
  · cases h
  · cases h
    rfl

theorem RouteTable.isRefusal_changed {t t' : RouteTable} {c : RouteChange} {e : HostError}
    (h : t.changed c = (.error e, t')) : e.isRefusal = false := by
  cases c with
  | setDefault gateway =>
      cases hd : t.default with
      | none => simp [changed, change, hd] at h
      | some known =>
          simp only [changed, change, hd, Prod.mk.injEq, Except.error.injEq] at h
          rw [← h.1]
          simp [HostError.isRefusal]
  | setHost gateway host =>
      cases hd : t.host? host with
      | none => simp [changed, change, hd] at h
      | some known =>
          simp only [changed, change, hd, Prod.mk.injEq, Except.error.injEq] at h
          rw [← h.1]
          simp [HostError.isRefusal]
  | clearDefault | clearHost host => cases h

private theorem FaultyRoutes.isRefusal_of_fault? {r : FaultyRoutes} {kind : RouteKind}
    {dump : String} {e : HostError} (h : r.fault? kind dump = some e) : e.isRefusal = true := by
  simp only [fault?] at h
  split_ifs at h <;> cases h <;> rfl

namespace FaultyRoutes

theorem read_cases (r : FaultyRoutes) :
    (∃ e, r.read = (.error e, r.counted) ∧ e.isRefusal = true) ∨
      r.read = (r.table.readDefault, r.counted) := by
  cases hf : r.fault? .readDefault "ReadDefault" with
  | some e => exact .inl ⟨e, by rw [read, hf], isRefusal_of_fault? hf⟩
  | none => exact .inr (by rw [read, hf])

theorem change_cases (c : RouteChange) (r : FaultyRoutes) :
    (∃ e, r.change c = (.error e, r.counted) ∧ e.isRefusal = true) ∨
      r.change c = ((r.table.changed c).1, { r.counted with table := (r.table.changed c).2 }) := by
  cases hf : r.fault? c.kind c.dump with
  | some e => exact .inl ⟨e, by rw [change, hf], isRefusal_of_fault? hf⟩
  | none => exact .inr (by rw [change, hf])

end FaultyRoutes

/-! ## Answers -/

namespace RouteTable

private theorem changed_eq_error {t t' : RouteTable} {c : RouteChange} {e : HostError}
    (h : t.changed c = (.error e, t')) : t' = t := by
  rw [changed] at h
  split at h
  · cases h
  · cases h
    rfl

theorem changed_eq_ok {t t' : RouteTable} {c : RouteChange} (h : t.changed c = (.ok (), t')) :
    t.change c = .ok t' := by
  rw [changed] at h
  split at h
  · rename_i changed
    cases h
    exact changed
  · cases h

theorem change_setHost_eq_ok {t t' : RouteTable} {gateway host : Ipv4}
    (h : t.change (.setHost gateway host) = .ok t') :
    t.hosts.lookup host = none ∧ t' = ⟨t.default, insertHost host gateway t.hosts⟩ := by
  simp only [change] at h
  split at h
  · cases h
  · rename_i fresh
    cases h
    exact ⟨fresh, rfl⟩

theorem change_setDefault_eq_ok {t t' : RouteTable} {gateway : Ipv4}
    (h : t.change (.setDefault gateway) = .ok t') : t' = ⟨some gateway, t.hosts⟩ := by
  simp only [change] at h
  split at h
  · cases h
  · cases h
    rfl

end RouteTable

/-- A router over a table: a call is refused and changes nothing, or the table answers it. -/
structure Router.Serves {σ : Type} (R : Router σ) (table : σ → RouteTable) (refusals : σ → Nat) :
    Prop where
  read : ∀ s, table (R.read s).2 = table s ∧
    ((∃ e, (R.read s).1 = .error e) ∧ refusals (R.read s).2 = refusals s + 1 ∨
      (R.read s).1 = (table s).readDefault ∧ refusals (R.read s).2 = refusals s)
  change : ∀ c s,
    (∃ e, (R.change c s).1 = .error e) ∧ table (R.change c s).2 = table s ∧
        refusals (R.change c s).2 = refusals s + 1 ∨
      (table s).changed c = ((R.change c s).1, table (R.change c s).2) ∧
        refusals (R.change c s).2 = refusals s

namespace Detour

variable {σ : Type} {R : Router σ} {peer tunnel : Ipv4} {s s' : σ}

/-- How an installation can end: at the first of its calls that fails, with what undoes the calls
before it, or with all of them made. -/
inductive Installation (R : Router σ) (peer tunnel : Ipv4) (s : σ) :
    Except HostError RouteSnapshot → σ → Prop
  | unread {e : HostError} {s' : σ} (read : R.read s = (.error e, s')) :
      Installation R peer tunnel s (.error e) s'
  | unpinned {former : Ipv4} {e : HostError} {s₁ s' : σ} (read : R.read s = (.ok former, s₁))
      (host : R.change (.setHost former peer) s₁ = (.error e, s')) :
      Installation R peer tunnel s (.error e) s'
  | uncleared {former : Ipv4} {e : HostError} {s₁ s₂ s₃ : σ}
      (read : R.read s = (.ok former, s₁))
      (host : R.change (.setHost former peer) s₁ = (.ok (), s₂))
      (clear : R.change .clearDefault s₂ = (.error e, s₃)) :
      Installation R peer tunnel s (.error e) (R.change (.clearHost peer) s₃).2
  | unset {former : Ipv4} {e : HostError} {s₁ s₂ s₃ s₄ : σ} (read : R.read s = (.ok former, s₁))
      (host : R.change (.setHost former peer) s₁ = (.ok (), s₂))
      (clear : R.change .clearDefault s₂ = (.ok (), s₃))
      (set : R.change (.setDefault tunnel) s₃ = (.error e, s₄)) :
      Installation R peer tunnel s (.error e)
        (R.change (.clearHost peer) (R.change (.setDefault former) s₄).2).2
  | complete {former : Ipv4} {s₁ s₂ s₃ s' : σ} (read : R.read s = (.ok former, s₁))
      (host : R.change (.setHost former peer) s₁ = (.ok (), s₂))
      (clear : R.change .clearDefault s₂ = (.ok (), s₃))
      (set : R.change (.setDefault tunnel) s₃ = (.ok (), s')) :
      Installation R peer tunnel s (.ok ⟨former, tunnel, peer⟩) s'

theorem install_cases (R : Router σ) (peer tunnel : Ipv4) (s : σ) :
    Installation R peer tunnel s (install R peer tunnel s).1 (install R peer tunnel s).2 := by
  rw [install]
  cases read : R.read s with
  | mk outcome s₁ =>
      cases outcome with
      | error e => exact .unread read
      | ok former =>
          cases host : R.change (.setHost former peer) s₁ with
          | mk outcome s₂ =>
              cases outcome with
              | error e =>
                  simp only [host]
                  exact .unpinned read host
              | ok done =>
                  cases clear : R.change .clearDefault s₂ with
                  | mk outcome s₃ =>
                      cases outcome with
                      | error e =>
                          simp only [host, clear]
                          exact .uncleared read host clear
                      | ok done =>
                          cases set : R.change (.setDefault tunnel) s₃ with
                          | mk outcome s₄ =>
                              cases outcome with
                              | error e =>
                                  simp only [host, clear, set]
                                  exact .unset read host clear set
                              | ok done =>
                                  simp only [host, clear, set]
                                  exact .complete read host clear set

theorem installation_of_eq {outcome : Except HostError RouteSnapshot}
    (h : install R peer tunnel s = (outcome, s')) : Installation R peer tunnel s outcome s' := by
  have ended := install_cases R peer tunnel s
  rw [h] at ended
  exact ended

theorem install_eq_ok {snapshot : RouteSnapshot}
    (h : install R peer tunnel s = (.ok snapshot, s')) :
    ∃ former s₁ s₂ s₃, snapshot = ⟨former, tunnel, peer⟩ ∧
      R.read s = (.ok former, s₁) ∧ R.change (.setHost former peer) s₁ = (.ok (), s₂) ∧
      R.change .clearDefault s₂ = (.ok (), s₃) ∧
      R.change (.setDefault tunnel) s₃ = (.ok (), s') := by
  cases installation_of_eq h with
  | @complete former s₁ s₂ s₃ _ read host clear set =>
      exact ⟨former, s₁, s₂, s₃, rfl, read, host, clear, set⟩

theorem install_keeps {P : σ → Prop} (read : ∀ s, P s → P (R.read s).2)
    (change : ∀ c s, P s → P (R.change c s).2) (peer tunnel : Ipv4) (h : P s) :
    P (install R peer tunnel s).2 := by
  have kept : ∀ {c s s' outcome}, P s → R.change c s = (outcome, s') → P s' := by
    intro c s s' outcome hs hcall
    have next := change c s hs
    rw [hcall] at next
    exact next
  have first := read s h
  have ended := install_cases R peer tunnel s
  generalize (install R peer tunnel s).1 = outcome at ended
  generalize (install R peer tunnel s).2 = s' at ended ⊢
  cases ended with
  | unread hread =>
      rw [hread] at first
      exact first
  | unpinned hread host =>
      rw [hread] at first
      exact kept first host
  | uncleared hread host clear =>
      rw [hread] at first
      exact change _ _ (kept (kept first host) clear)
  | unset hread host clear set =>
      rw [hread] at first
      exact change _ _ (change _ _ (kept (kept (kept first host) clear) set))
  | complete hread host clear set =>
      rw [hread] at first
      exact kept (kept (kept first host) clear) set

theorem install_commutes {τ : Type} {Q : Router τ} {f : σ → τ}
    (read : ∀ s, Q.read (f s) = ((R.read s).1, f (R.read s).2))
    (change : ∀ c s, Q.change c (f s) = ((R.change c s).1, f (R.change c s).2))
    (peer tunnel : Ipv4) (s : σ) :
    install Q peer tunnel (f s) = ((install R peer tunnel s).1, f (install R peer tunnel s).2) := by
  simp only [install, read]
  cases R.read s with
  | mk outcome s₁ =>
      cases outcome with
      | error e => rfl
      | ok former =>
          simp only [change]
          cases R.change (.setHost former peer) s₁ with
          | mk outcome s₂ =>
              cases outcome with
              | error e => rfl
              | ok done =>
                  simp only [change]
                  cases R.change .clearDefault s₂ with
                  | mk outcome s₃ =>
                      cases outcome with
                      | error e => simp only [undoHost, change]
                      | ok done =>
                          simp only [change]
                          cases R.change (.setDefault tunnel) s₃ with
                          | mk outcome s₄ =>
                              cases outcome with
                              | error e => simp only [undoHost, change]
                              | ok done => rfl

theorem restore_commutes {τ : Type} {Q : Router τ} {f : σ → τ}
    (change : ∀ c s, Q.change c (f s) = ((R.change c s).1, f (R.change c s).2))
    (snapshot : RouteSnapshot) (s : σ) :
    restore Q snapshot (f s) = ((restore R snapshot s).1, f (restore R snapshot s).2) := by
  simp only [restore, change]

/-! ## Over a table -/

section

variable {table : σ → RouteTable} {refusals : σ → Nat}

theorem made_of_serves (serves : R.Serves table refusals) {c : RouteChange}
    (made : R.change c s = (.ok (), s')) :
    (table s).change c = .ok (table s') ∧ refusals s' = refusals s := by
  have answer := serves.change c s
  rw [made] at answer
  rcases answer with ⟨⟨e, failed⟩, -⟩ | ⟨changed, same⟩
  · cases failed
  · exact ⟨RouteTable.changed_eq_ok changed, same⟩

theorem refused_of_serves (serves : R.Serves table refusals) {c : RouteChange} {t : RouteTable}
    {e : HostError} (possible : (table s).change c = .ok t)
    (failed : R.change c s = (.error e, s')) :
    table s' = table s ∧ refusals s' = refusals s + 1 := by
  have answer := serves.change c s
  rw [failed] at answer
  rcases answer with ⟨-, kept, refused⟩ | ⟨changed, -⟩
  · exact ⟨kept, refused⟩
  · rw [RouteTable.changed, possible] at changed
    cases changed

theorem table_of_change_eq_error (serves : R.Serves table refusals) {c : RouteChange}
    {e : HostError} (failed : R.change c s = (.error e, s')) : table s' = table s := by
  have answer := serves.change c s
  rw [failed] at answer
  rcases answer with ⟨-, kept, -⟩ | ⟨changed, -⟩
  · exact kept
  · exact RouteTable.changed_eq_error changed

private theorem refusals_le_change (serves : R.Serves table refusals) (c : RouteChange) (s : σ) :
    refusals s ≤ refusals (R.change c s).2 := by
  rcases serves.change c s with ⟨-, -, refused⟩ | ⟨-, same⟩ <;> omega

theorem refusals_le_of_serves (serves : R.Serves table refusals) {c : RouteChange}
    {outcome : Except HostError Unit} (called : R.change c s = (outcome, s')) :
    refusals s ≤ refusals s' := by
  have later := refusals_le_change serves c s
  rwa [called] at later

theorem kept_or_made (serves : R.Serves table refusals) {c : RouteChange}
    {outcome : Except HostError Unit} (called : R.change c s = (outcome, s')) :
    table s' = table s ∨ (table s).change c = .ok (table s') := by
  cases outcome with
  | ok done => exact .inr (made_of_serves serves called).1
  | error e => exact .inl (table_of_change_eq_error serves called)

theorem answered_of_serves (serves : R.Serves table refusals) {c : RouteChange} {t : RouteTable}
    {outcome : Except HostError Unit} (possible : (table s).change c = .ok t)
    (called : R.change c s = (outcome, s')) (unrefused : refusals s' ≤ refusals s) :
    outcome = .ok () ∧ table s' = t := by
  have answer := serves.change c s
  rw [called] at answer
  rcases answer with ⟨-, -, refused⟩ | ⟨changed, -⟩
  · have grown : refusals s' = refusals s + 1 := refused
    omega
  · rw [RouteTable.changed, possible, Prod.mk.injEq] at changed
    exact ⟨changed.1.symm, changed.2.symm⟩

private theorem changed_of_serves (serves : R.Serves table refusals) {c : RouteChange}
    {t : RouteTable} (possible : (table s).change c = .ok t)
    (unrefused : refusals (R.change c s).2 ≤ refusals s) : table (R.change c s).2 = t :=
  (answered_of_serves serves possible rfl unrefused).2

theorem default_of_clearHost (serves : R.Serves table refusals) {host : Ipv4}
    {outcome : Except HostError Unit} (called : R.change (.clearHost host) s = (outcome, s')) :
    (table s').default = (table s).default := by
  rcases kept_or_made serves called with kept | made
  · rw [kept]
  · rw [← Except.ok.inj made]

theorem default_of_setDefault (serves : R.Serves table refusals) {gateway : Ipv4}
    {outcome : Except HostError Unit} (vacant : (table s).default = none)
    (called : R.change (.setDefault gateway) s = (outcome, s')) :
    (table s').hosts = (table s).hosts ∧
      (outcome = .ok () ∧ (table s').default = some gateway ∨
        (∃ e, outcome = .error e) ∧ (table s').default = none) := by
  cases outcome with
  | ok done =>
      have table' := RouteTable.change_setDefault_eq_ok (made_of_serves serves called).1
      rw [table']
      exact ⟨rfl, .inl ⟨rfl, rfl⟩⟩
  | error e =>
      rw [table_of_change_eq_error serves called]
      exact ⟨rfl, .inr ⟨⟨e, rfl⟩, vacant⟩⟩

theorem pinned_of_serves (serves : R.Serves table refusals) {former : Ipv4} {s₁ s₂ : σ}
    (read : R.read s = (.ok former, s₁))
    (host : R.change (.setHost former peer) s₁ = (.ok (), s₂)) :
    (table s).default = some former ∧ (table s).hosts.lookup peer = none ∧
      table s₂ = ⟨some former, RouteTable.insertHost peer former (table s).hosts⟩ ∧
      refusals s₂ = refusals s := by
  obtain ⟨table₁, reading⟩ := serves.read s
  rw [read] at table₁ reading
  obtain ⟨hosted, refusals₂⟩ := made_of_serves serves host
  obtain ⟨fresh, table₂⟩ := RouteTable.change_setHost_eq_ok hosted
  rw [table₁] at fresh table₂
  rcases reading with ⟨⟨e, failed⟩, -⟩ | ⟨reading, refusals₁⟩
  · cases failed
  · have default : (table s).default = some former := by
      rw [RouteTable.readDefault] at reading
      split at reading
      · rename_i default
        cases reading
        exact default
      · cases reading
    exact ⟨default, fresh, by rw [table₂, default], refusals₂.trans refusals₁⟩

theorem cleared_of_serves (serves : R.Serves table refusals) {former : Ipv4} {s₁ s₂ s₃ : σ}
    (read : R.read s = (.ok former, s₁))
    (host : R.change (.setHost former peer) s₁ = (.ok (), s₂))
    (clear : R.change .clearDefault s₂ = (.ok (), s₃)) :
    (table s).default = some former ∧ (table s).hosts.lookup peer = none ∧
      table s₃ = ⟨none, RouteTable.insertHost peer former (table s).hosts⟩ ∧
      refusals s₃ = refusals s := by
  obtain ⟨default, fresh, table₂, refusals₂⟩ := pinned_of_serves serves read host
  obtain ⟨cleared, refusals₃⟩ := made_of_serves serves clear
  rw [table₂] at cleared
  exact ⟨default, fresh, (Except.ok.inj cleared).symm, refusals₃.trans refusals₂⟩

theorem moved_of_serves (serves : R.Serves table refusals) {snapshot : RouteSnapshot}
    (h : install R peer tunnel s = (.ok snapshot, s')) :
    snapshot.tunnel = tunnel ∧ snapshot.peer = peer ∧
      (table s).default = some snapshot.former ∧ (table s).hosts.lookup peer = none ∧
      table s' = ⟨some tunnel, RouteTable.insertHost peer snapshot.former (table s).hosts⟩ := by
  obtain ⟨former, s₁, s₂, s₃, rfl, read, host, clear, set⟩ := install_eq_ok h
  obtain ⟨default, fresh, table₃, -⟩ := cleared_of_serves serves read host clear
  have moved := (made_of_serves serves set).1
  rw [table₃] at moved
  exact ⟨rfl, rfl, default, fresh, (Except.ok.inj moved).symm⟩

/-- An installation that fails leaves the table as it was, if no more than one call was refused. -/
theorem table_of_install_eq_error (serves : R.Serves table refusals) {e : HostError}
    (h : install R peer tunnel s = (.error e, s')) (once : refusals s' ≤ refusals s + 1) :
    table s' = table s := by
  cases installation_of_eq h with
  | unread read =>
      have reading := (serves.read s).1
      rw [read] at reading
      exact reading
  | @unpinned former _ s₁ _ read host =>
      have reading := (serves.read s).1
      have hosting := serves.change (.setHost former peer) s₁
      rw [read] at reading
      rw [host] at hosting
      rcases hosting with ⟨-, kept, -⟩ | ⟨changed, -⟩
      · exact kept.trans reading
      · exact (RouteTable.changed_eq_error changed).trans reading
  | @uncleared former _ s₁ s₂ s₃ read host clear =>
      obtain ⟨default, fresh, table₂, refusals₂⟩ := pinned_of_serves serves read host
      obtain ⟨table₃, refusals₃⟩ := refused_of_serves serves rfl clear
      have table₄ := changed_of_serves (s := s₃) (c := .clearHost peer) serves rfl (by omega)
      rw [table₄, table₃, table₂, RouteTable.eraseHost_insertHost,
        RouteTable.eraseHost_of_lookup fresh, ← default]
  | @unset former _ s₁ s₂ s₃ s₄ read host clear set =>
      obtain ⟨default, fresh, table₃, refusals₃⟩ := cleared_of_serves serves read host clear
      -- Both defaults can be set now, so it was the tunnel's that was refused, and nothing later.
      have vacant : ∀ gateway, (table s₃).change (.setDefault gateway) =
          .ok { table s₃ with default := some gateway } := by
        intro gateway
        rw [table₃]
        rfl
      obtain ⟨table₄, refusals₄⟩ := refused_of_serves serves (vacant tunnel) set
      have later := refusals_le_change serves (.clearHost peer) (R.change (.setDefault former) s₄).2
      have before := refusals_le_change serves (.setDefault former) s₄
      have table₅ := changed_of_serves (s := s₄) serves (table₄.symm ▸ vacant former) (by omega)
      have table₆ := changed_of_serves (s := (R.change (.setDefault former) s₄).2)
        (c := .clearHost peer) serves rfl (by omega)
      rw [table₆, table₅, table₄, table₃]
      simp only [RouteTable.eraseHost_insertHost, RouteTable.eraseHost_of_lookup fresh, ← default]

end

end Detour

end TunnelClient
