import TunnelClient.Proofs.Route.Restore

/-!
# Make before break

Make before break.  A router can be watched, so that a detour is judged by every table that its
calls lead to and not only by the last: the default route is never in the tunnel while the peer has
no route of its own.
-/

namespace TunnelClient

structure Watched (σ : Type) where
  now : σ
  seen : List σ := []

namespace Router

variable {σ : Type} {R : Router σ}

def watched (R : Router σ) : Router (Watched σ) where
  read w := ((R.read w.now).1, ⟨(R.read w.now).2, w.seen ++ [(R.read w.now).2]⟩)
  change c w := ((R.change c w.now).1, ⟨(R.change c w.now).2, w.seen ++ [(R.change c w.now).2]⟩)

private theorem Serves.watched {table : σ → RouteTable} {refusals : σ → Nat}
    (serves : R.Serves table refusals) :
    R.watched.Serves (fun w => table w.now) (fun w => refusals w.now) where
  read w := serves.read w.now
  change c w := serves.change c w.now

variable {P : σ → Prop} {w w' : Watched σ}

private theorem seen_of_read {outcome : Except HostError Ipv4}
    (h : R.watched.read w = (outcome, w'))
    (seen : ∀ s ∈ w.seen, P s) (now : P w'.now) : ∀ s ∈ w'.seen, P s := by
  cases h
  exact List.forall_mem_append.mpr ⟨seen, List.forall_mem_singleton.mpr now⟩

private theorem seen_of_change {c : RouteChange} {outcome : Except HostError Unit}
    (h : R.watched.change c w = (outcome, w')) (seen : ∀ s ∈ w.seen, P s) (now : P w'.now) :
    ∀ s ∈ w'.seen, P s := by
  cases h
  exact List.forall_mem_append.mpr ⟨seen, List.forall_mem_singleton.mpr now⟩

end Router

namespace Detour

variable {σ : Type} {R : Router σ} {table : σ → RouteTable} {refusals : σ → Nat} {s : σ}
  {peer tunnel former : Ipv4} {snapshot : RouteSnapshot}

theorem install_watched (R : Router σ) (peer tunnel : Ipv4) (w : Watched σ) :
    install R peer tunnel w.now =
      ((install R.watched peer tunnel w).1, (install R.watched peer tunnel w).2.now) :=
  install_commutes (f := Watched.now) (fun _ => rfl) (fun _ _ => rfl) peer tunnel w

theorem restore_watched (R : Router σ) (snapshot : RouteSnapshot) (w : Watched σ) :
    restore R snapshot w.now =
      ((restore R.watched snapshot w).1, (restore R.watched snapshot w).2.now) :=
  restore_commutes (f := Watched.now) (fun _ _ => rfl) snapshot w

def installTrail (R : Router σ) (peer tunnel : Ipv4) (s : σ) : List σ :=
  (install R.watched peer tunnel ⟨s, []⟩).2.seen

def restoreTrail (R : Router σ) (snapshot : RouteSnapshot) (s : σ) : List σ :=
  (restore R.watched snapshot ⟨s, []⟩).2.seen

/-! ## Tables on the way -/

/-- The tunnel is not the default route before the peer has one of its own. -/
def Sheltered (peer tunnel former : Ipv4) (t : RouteTable) : Prop :=
  t.default = some tunnel → t.host? peer = some former

/-- Packets to the peer go where they went before the detour. -/
def Reachable (peer former : Ipv4) (t : RouteTable) : Prop :=
  t.default = some former ∨ t.host? peer = some former

theorem Reachable.sheltered {t : RouteTable} (apart : tunnel ≠ former)
    (h : Reachable peer former t) : Sheltered peer tunnel former t := by
  intro set
  rcases h with default | pinned
  · rw [default] at set
    exact absurd (Option.some.inj set).symm apart
  · exact pinned

section

variable {w w₁ w₂ w₃ : Watched σ}

private theorem reachable_read (serves : R.Serves table refusals)
    (default : (table w.now).default = some former)
    (seen : ∀ t ∈ w.seen, Reachable peer former (table t))
    {outcome : Except HostError Ipv4} (read : R.watched.read w = (outcome, w₁)) :
    (table w₁.now).default = some former ∧ ∀ t ∈ w₁.seen, Reachable peer former (table t) := by
  have kept := (serves.watched.read w).1
  rw [read] at kept
  have default₁ : (table w₁.now).default = some former := by rw [kept, default]
  exact ⟨default₁, Router.seen_of_read read seen (.inl default₁)⟩

private theorem reachable_pinned (serves : R.Serves table refusals)
    (default : (table w.now).default = some former)
    (seen : ∀ t ∈ w.seen, Reachable peer former (table t)) {gateway : Ipv4}
    (read : R.watched.read w = (.ok gateway, w₁))
    (host : R.watched.change (.setHost gateway peer) w₁ = (.ok (), w₂)) :
    gateway = former ∧ (table w₂.now).default = some former ∧
      (table w₂.now).host? peer = some former ∧
      ∀ t ∈ w₂.seen, Reachable peer former (table t) := by
  obtain ⟨-, seen₁⟩ := reachable_read serves default seen read
  obtain ⟨default', fresh, table₂, -⟩ := pinned_of_serves serves.watched read host
  cases default'.symm.trans default
  have default₂ : (table w₂.now).default = some former := by rw [table₂]
  have pinned : (table w₂.now).host? peer = some former := by
    rw [table₂]
    exact RouteTable.lookup_insertHost fresh former
  exact ⟨rfl, default₂, pinned, Router.seen_of_change host seen₁ (.inl default₂)⟩

private theorem reachable_cleared (serves : R.Serves table refusals)
    (default : (table w.now).default = some former)
    (seen : ∀ t ∈ w.seen, Reachable peer former (table t)) {gateway : Ipv4}
    (read : R.watched.read w = (.ok gateway, w₁))
    (host : R.watched.change (.setHost gateway peer) w₁ = (.ok (), w₂))
    (clear : R.watched.change .clearDefault w₂ = (.ok (), w₃)) :
    gateway = former ∧ (table w₃.now).default = none ∧
      (table w₃.now).host? peer = some former ∧
      ∀ t ∈ w₃.seen, Reachable peer former (table t) := by
  obtain ⟨same, -, pinned, seen₂⟩ := reachable_pinned serves default seen read host
  have cleared := (made_of_serves serves.watched clear).1
  have default₃ : (table w₃.now).default = none := by rw [← Except.ok.inj cleared]
  have pinned₃ : (table w₃.now).host? peer = some former := by
    rw [← Except.ok.inj cleared]
    exact pinned
  exact ⟨same, default₃, pinned₃, Router.seen_of_change clear seen₂ (.inr pinned₃)⟩

private theorem reachable_set (serves : R.Serves table refusals) {gateway : Ipv4}
    (vacant : (table w.now).default = none) (pinned : (table w.now).host? peer = some former)
    (seen : ∀ t ∈ w.seen, Reachable peer former (table t))
    {outcome : Except HostError Unit}
    (set : R.watched.change (.setDefault gateway) w = (outcome, w₁)) :
    (table w₁.now).host? peer = some former ∧ ∀ t ∈ w₁.seen, Reachable peer former (table t) := by
  obtain ⟨hosts, -⟩ := default_of_setDefault serves.watched vacant set
  have pinned₁ : (table w₁.now).host? peer = some former := by
    rw [RouteTable.host?, hosts]
    exact pinned
  exact ⟨pinned₁, Router.seen_of_change set seen (.inr pinned₁)⟩

private theorem sheltered_unpinned (serves : R.Serves table refusals)
    (away : (table w.now).default ≠ some tunnel)
    (seen : ∀ t ∈ w.seen, Sheltered peer tunnel former (table t)) :
    ∀ t ∈ (R.watched.change (.clearHost peer) w).2.seen,
      Sheltered peer tunnel former (table t) := by
  have kept : (table (R.watched.change (.clearHost peer) w).2.now).default =
      (table w.now).default := default_of_clearHost serves.watched (s := w) rfl
  apply Router.seen_of_change rfl seen
  intro set
  exact absurd (kept.symm.trans set) away

end

private theorem sheltered_of_install (serves : R.Serves table refusals) (apart : tunnel ≠ former)
    (default : (table s).default = some former) :
    ∀ t ∈ installTrail R peer tunnel s, Sheltered peer tunnel former (table t) := by
  have watching := serves.watched
  have ended := install_cases R.watched peer tunnel ⟨s, []⟩
  have seen : ∀ t ∈ (⟨s, []⟩ : Watched σ).seen, Reachable peer former (table t) := nofun
  rw [installTrail]
  generalize (install R.watched peer tunnel ⟨s, []⟩).1 = outcome at ended
  generalize (install R.watched peer tunnel ⟨s, []⟩).2 = w' at ended ⊢
  cases ended with
  | unread read =>
      obtain ⟨-, seen₁⟩ := reachable_read serves default seen read
      exact fun t mem => (seen₁ t mem).sheltered apart
  | unpinned read host =>
      obtain ⟨default₁, seen₁⟩ := reachable_read serves default seen read
      have kept := table_of_change_eq_error watching host
      rw [← kept] at default₁
      exact fun t mem => (Router.seen_of_change host seen₁ (.inl default₁) t mem).sheltered apart
  | @uncleared _ e _ _ w₃ read host clear =>
      obtain ⟨-, default₂, -, seen₂⟩ := reachable_pinned serves default seen read host
      have kept := table_of_change_eq_error watching clear
      rw [← kept] at default₂
      have seen₃ := Router.seen_of_change clear seen₂ (.inl default₂)
      apply sheltered_unpinned serves
      · rw [default₂]
        exact fun same => apart (Option.some.inj same).symm
      · exact fun t mem => (seen₃ t mem).sheltered apart
  | @unset gateway e w₁ w₂ w₃ w₄ read host clear set =>
      -- If neither gateway could be set, the peer's route goes while there is no default route.
      obtain ⟨rfl, default₃, pinned₃, seen₃⟩ :=
        reachable_cleared serves default seen read host clear
      obtain ⟨pinned₄, seen₄⟩ := reachable_set serves default₃ pinned₃ seen₃ set
      have kept := table_of_change_eq_error watching set
      rw [← kept] at default₃
      cases reset : R.watched.change (.setDefault gateway) w₄ with
      | mk outcome w₅ =>
          obtain ⟨-, seen₅⟩ := reachable_set serves default₃ pinned₄ seen₄ reset
          obtain ⟨-, default₅⟩ := default_of_setDefault watching default₃ reset
          apply sheltered_unpinned serves
          · rcases default₅ with ⟨-, back⟩ | ⟨-, gone⟩
            · rw [back]
              exact fun same => apart (Option.some.inj same).symm
            · rw [gone]
              nofun
          · exact fun t mem => (seen₅ t mem).sheltered apart
  | complete read host clear set =>
      obtain ⟨-, default₃, pinned₃, seen₃⟩ :=
        reachable_cleared serves default seen read host clear
      obtain ⟨-, seen₄⟩ := reachable_set serves default₃ pinned₃ seen₃ set
      exact fun t mem => (seen₄ t mem).sheltered apart

private theorem reachable_of_install (serves : R.Serves table refusals)
    (default : (table s).default = some former) {s' : σ}
    (h : install R peer tunnel s = (.ok snapshot, s')) :
    (table s').host? peer = some former ∧
      ∀ t ∈ installTrail R peer tunnel s, Reachable peer former (table t) := by
  have seen : ∀ t ∈ (⟨s, []⟩ : Watched σ).seen, Reachable peer former (table t) := nofun
  have ended := install_cases R.watched peer tunnel ⟨s, []⟩
  have same := (install_watched R peer tunnel ⟨s, []⟩).symm.trans h
  rw [Prod.mk.injEq] at same
  rw [same.1] at ended
  rw [installTrail, ← same.2]
  generalize (install R.watched peer tunnel ⟨s, []⟩).2 = w' at ended ⊢
  cases ended with
  | complete read host clear set =>
      obtain ⟨-, default₃, pinned₃, seen₃⟩ :=
        reachable_cleared serves default seen read host clear
      exact reachable_set serves default₃ pinned₃ seen₃ set

private theorem reachable_of_restore (serves : R.Serves table refusals)
    (pinned : (table s).host? snapshot.peer = some snapshot.former)
    (unrefused : refusals (restore R snapshot s).2 ≤ refusals s) :
    ∀ t ∈ restoreTrail R snapshot s, Reachable snapshot.peer snapshot.former (table t) := by
  have watching := serves.watched
  have seen : ∀ t ∈ (⟨s, []⟩ : Watched σ).seen,
      Reachable snapshot.peer snapshot.former (table t) := nofun
  have course := restore_cases R.watched snapshot ⟨s, []⟩
  rw [restore_watched R snapshot ⟨s, []⟩] at unrefused
  obtain ⟨w₁, w₂, clear, set, remove, -⟩ := course.made_of_unrefused watching unrefused
  have cleared := (made_of_serves watching clear).1
  have pinned₁ : (table w₁.now).host? snapshot.peer = some snapshot.former := by
    rw [← Except.ok.inj cleared]
    exact pinned
  have default₂ : (table w₂.now).default = some snapshot.former := by
    rw [RouteTable.change_setDefault_eq_ok (made_of_serves watching set).1]
  have default₃ := (default_of_clearHost watching remove).trans default₂
  have seen₁ := Router.seen_of_change clear seen (.inr pinned₁)
  have seen₂ := Router.seen_of_change set seen₁ (.inl default₂)
  exact Router.seen_of_change remove seen₂ (.inl default₃)

/-- **Make before break.**  While a detour is installed or undone, the default route is in the
tunnel only when the peer has its own; and from a successful installation to the end of its
restoration the peer is reached through the former gateway all the time. -/
theorem peer_keeps_path (peer : Ipv4) (j : RouteJournal)
    (default : j.routes.table.default = some former) (apart : tunnel ≠ former) :
    (∀ t ∈ installTrail RouteJournal.router peer tunnel j,
        t.routes.table.default = some tunnel → t.routes.table.host? peer = some former) ∧
      ∀ snapshot j', install RouteJournal.router peer tunnel j = (.ok snapshot, j') →
        ∀ again : RouteJournal, again.routes.table = j'.routes.table →
          (restore RouteJournal.router snapshot again).2.refusals = again.refusals →
            ∀ t ∈ installTrail RouteJournal.router peer tunnel j ++
                restoreTrail RouteJournal.router snapshot again,
              t.routes.table.default = some former ∨ t.routes.table.host? peer = some former := by
  have serves := RouteJournal.serves_router
  constructor
  · exact sheltered_of_install serves apart default
  · intro snapshot j' installed again same unrefused
    obtain ⟨-, rfl, default', -, -⟩ := moved_of_serves serves installed
    cases default'.symm.trans default
    obtain ⟨pinned, forth⟩ := reachable_of_install serves default installed
    rw [← same] at pinned
    have back := reachable_of_restore serves pinned (Nat.le_of_eq unrefused)
    exact List.forall_mem_append.mpr ⟨forth, back⟩

def atHome : RouteJournal := { routes := { table := ⟨some outing.former, []⟩ } }

theorem peer_keeps_path_outing :
    (installTrail RouteJournal.router outing.peer outing.tunnel atHome).map
        (fun j => j.routes.table.default) =
        [some outing.former, some outing.former, none, some outing.tunnel] ∧
      (∀ j ∈ installTrail RouteJournal.router outing.peer outing.tunnel atHome,
        j.routes.table.default = some outing.tunnel →
          j.routes.table.host? outing.peer = some outing.former) ∧
      ∀ j ∈ installTrail RouteJournal.router outing.peer outing.tunnel atHome ++
          restoreTrail RouteJournal.router outing
            (install RouteJournal.router outing.peer outing.tunnel atHome).2,
        j.routes.table.default = some outing.former ∨
          j.routes.table.host? outing.peer = some outing.former := by
  have default : atHome.routes.table.default = some outing.former := rfl
  have apart : outing.tunnel ≠ outing.former := by decide
  obtain ⟨sheltered, reachable⟩ := peer_keeps_path outing.peer atHome default apart
  refine ⟨by decide, sheltered, ?_⟩
  exact reachable outing _ rfl _ rfl (by decide)

end Detour

end TunnelClient
