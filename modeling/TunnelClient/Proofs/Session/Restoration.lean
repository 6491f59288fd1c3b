import TunnelClient.Proofs.Session.Progress
import TunnelClient.Proofs.Session.Resources

/-!
# The table restored

How the routing table gets back to what it was.  The device takes the routes of its
network with it when it goes down, maybe that of the peer among them; what the
teardown does afterwards restores the table either way.
-/

namespace TunnelClient

namespace World

/-! ## Taking the detour back -/

private theorem changeRoute_of_willing {w : World} {c : RouteChange} {table : RouteTable}
    (willing : w.routes.Willing) (possible : w.routes.table.change c = .ok table) :
    ∃ w', w.changeRoute c = (.ok (), w') ∧ w'.routes.table = table ∧ w'.routes.Willing := by
  have changed : w.routes.table.changed c = (.ok (), table) := by
    rw [RouteTable.changed, possible]
  have outcome := FaultyRoutes.change_of_willing willing c
  rw [changed] at outcome
  refine ⟨(w.changeRoute c).2, ?_, ?_, ?_⟩
  · rw [changeRoute_eq, outcome]
  · rw [changeRoute_eq, outcome]
  · rw [changeRoute_eq, outcome]
    exact willing

private theorem restore_of_willing {w : World} (snapshot : RouteSnapshot)
    (willing : w.routes.Willing) : (Detour.restore router snapshot w).1.isClean = true ∧
      (Detour.restore router snapshot w).2.routes.table =
        ⟨some snapshot.former, RouteTable.eraseHost snapshot.peer w.routes.table.hosts⟩ := by
  obtain ⟨w₁, h₁, table₁, willing₁⟩ := changeRoute_of_willing (c := .clearDefault) willing rfl
  have vacant : w₁.routes.table.change (.setDefault snapshot.former) =
      .ok { w₁.routes.table with default := some snapshot.former } := by
    simp only [RouteTable.change, table₁]
  obtain ⟨w₂, h₂, table₂, willing₂⟩ := changeRoute_of_willing willing₁ vacant
  obtain ⟨w₃, h₃, table₃, -⟩ :=
    changeRoute_of_willing (c := .clearHost snapshot.peer) willing₂ rfl
  simp only [Detour.restore, router, h₁, h₂, h₃]
  refine ⟨rfl, ?_⟩
  rw [table₃, table₂, table₁]

end World

/-- No host route of a table goes through the network of a granted address. -/
def Setup.Apart (c : Setup) (a : TunnelAddress) (table : RouteTable) : Prop :=
  ∀ entry ∈ table.hosts, a.inner.sameNetwork c.device.prefixLength.toNat entry.2 = false

def Stimulus.touchesRoutes : Stimulus → Bool
  | failRoute _ => true
  | x => x.editsTable

private theorem World.willing_feel {x : Stimulus} (quiet : x.touchesRoutes = false) {w : World}
    (h : w.routes.Willing) : (w.feel x).routes.Willing := by
  cases x with
  | failRoute kind => cases quiet
  | setDefault gateway => cases quiet
  | clearHost host => cases quiet
  | linkDown address length => cases quiet
  | unfailRoute kind =>
      refine ⟨?_, h.2⟩
      change w.routes.failing.filter _ = []
      rw [h.1]
      rfl
  | _ => exact h

namespace Session

def Move.touchesRoutes : Move → Bool
  | .stimulus x => x.touchesRoutes
  | _ => false

private theorem Move.editsTable_of_touchesRoutes {m : Move} (h : m.touchesRoutes = false) :
    m.editsTable = false := by
  cases m with
  | task role obey => rfl
  | coordinator => rfl
  | stimulus x => cases x <;> first | rfl | exact h

variable {c : Setup} {s s' : Session} {initial : RouteTable}

private theorem bringDown_of_joining {t : Tunnel} {role : Role} (joining : Joining c t role s)
    (willing : s.world.routes.Willing) (apart : c.Apart t.address initial) :
    s.world.bringDown.routes.Willing ∧ ∃ kept : Ipv4 × Ipv4 → Bool,
      s.world.bringDown.routes.table.hosts = s.world.routes.table.hosts.filter kept ∧
      ∀ entry ∈ initial.hosts, kept entry = true := by
  obtain ⟨-, -, hroutes, -⟩ := World.bringDown_spec s.world
  have standing := joining.device
  cases hd : s.world.device with
  | none => simp [hd] at standing
  | some device =>
      simp only [hd, Option.map_some, Option.some.injEq, Device.standing, Prod.mk.injEq] at standing
      obtain ⟨settings, up, -⟩ := standing
      simp only [hd] at hroutes
      rw [hroutes]
      split
      · refine ⟨willing, fun entry =>
          !t.address.inner.sameNetwork c.device.prefixLength.toNat entry.2, ?_, ?_⟩
        · simp only [FaultyRoutes.mapTable, Device.routesAfterDown, up, if_true, settings]
          rfl
        · intro entry hentry
          simp only [apart entry hentry, Bool.not_false]
      · refine ⟨willing, fun _ => true, ?_, fun _ _ => rfl⟩
        rw [List.filter_true]

/-! ## Restored tables -/

/-- How far the table is on its way back. -/
def Restoring (c : Setup) (initial : RouteTable) (s : Session) : Prop :=
  match s.coordinator with
  | .handshaking _ | .awaiting _ | .joining _ _ _ _ => s.world.routes.Willing
  | .finished (.ok report) => c.Apart report.address initial →
    report.restore.isClean = true ∧ s.world.routes.table = initial
  | .fresh | .finished (.error _) => True

private theorem restoring_endTeardown {t : Tunnel} {cause : Cause}
    (joining : Joining c t .listener s)
    (routed : initial.default = some t.snapshot.former ∧ initial.host? t.snapshot.peer = none ∧
      s.world.routes.table = t.snapshot.detour initial)
    (willing : s.world.routes.Willing) : Restoring c initial (s.endTeardown t cause) := by
  rw [endTeardown_eq joining.phase]
  intro apart
  obtain ⟨hdefault, fresh, table⟩ := routed
  obtain ⟨willing', kept, hosts, pass⟩ := bringDown_of_joining joining willing apart
  have restored := World.restore_of_willing (w := s.world.bringDown.closeSocket) t.snapshot willing'
  refine ⟨restored.1, restored.2.trans ?_⟩
  have back : RouteTable.eraseHost t.snapshot.peer s.world.bringDown.routes.table.hosts =
      initial.hosts := by
    rw [hosts, table]
    exact RouteTable.eraseHost_filter_insertHost fresh pass _
  calc
    (⟨some t.snapshot.former, _⟩ : RouteTable)
        = ⟨initial.default, RouteTable.eraseHost t.snapshot.peer
            s.world.bringDown.routes.table.hosts⟩ := by rw [hdefault]; rfl
    _ = initial := by rw [back]

private theorem restoring_joinNext {t : Tunnel} {cause : Cause} {role : Role}
    (joining : Joining c t role s)
    (routed : initial.default = some t.snapshot.former ∧ initial.host? t.snapshot.peer = none ∧
      s.world.routes.table = t.snapshot.detour initial)
    (willing : s.world.routes.Willing) : Restoring c initial (s.joinNext t cause role) := by
  cases role with
  | uplink | downlink => exact willing
  | listener => exact restoring_endTeardown joining routed willing

private theorem restoring_settle {outcome : Except ClientError Tunnel} {w : World}
    (phase : s.phase = .handshaking) (turn : Handshake.Turn c s.world outcome w)
    (willing : s.world.routes.Willing) :
    Restoring c initial ((s.withWorld w).conclude outcome) := by
  cases turn with
  | @fail e | @undo _ _ e =>
      rw [conclude_error (s := s.withWorld w) phase]
      trivial
  | @accept _ t _ _ _ _ _ _ _ _ _ _ _ _ failing refused =>
      rw [conclude_ok (s := s.withWorld w) phase]
      exact ⟨failing.trans willing.1, refused.trans willing.2⟩

theorem restoring_coordinator (stage : Stage c s) (step : CoordinatorStep c s s')
    (routed : Routed initial s) (h : Restoring c initial s) : Restoring c initial s' := by
  cases step with
  | settle state turn eq =>
      rw [Restoring, state] at h
      rw [eq]
      exact restoring_settle ((stage_handshaking state).mp stage).phase turn h
  | @receive t cause rest state queue eq =>
      rw [Restoring, state] at h
      rw [eq, beginTeardown_eq (s := { s with channel := rest })
        ((stage_awaiting state).mp stage).phase]
      exact h
  | despair state queue halted eq =>
      rw [Restoring, state] at h
      rw [eq, beginTeardown_eq ((stage_awaiting state).mp stage).phase]
      exact h
  | join state halted eq =>
      rw [Restoring, state] at h
      rw [eq]
      exact restoring_joinNext ((stage_joining state).mp stage) ((routed_joining state).mp routed) h
  | @abandon t cause role deadline state eq =>
      rw [Restoring, state] at h
      rw [eq]
      exact restoring_joinNext ((stage_joining state).mp stage).abandon
        ((routed_joining state).mp routed) h

theorem Restoring.congr (h : Restoring c initial s) (coordinator : s'.coordinator = s.coordinator)
    (routes : s'.world.routes = s.world.routes) : Restoring c initial s' := by
  rw [Restoring, coordinator, routes]
  exact h

private theorem restoring_feel {x : Stimulus} (quiet : x.touchesRoutes = false)
    (h : Restoring c initial s) : Restoring c initial (s.feel x) := by
  obtain ⟨hcoordinator, -, -, -, -, -, -, -, -, hworld⟩ := feel_frame x s
  have table := World.table_feel (Move.editsTable_of_touchesRoutes (m := .stimulus x) quiet) s.world
  rw [Restoring] at h ⊢
  rw [hcoordinator, hworld, table]
  cases state : s.coordinator with
  | fresh => trivial
  | handshaking _ | awaiting _ | joining _ _ _ _ =>
      rw [state] at h
      exact World.willing_feel quiet h
  | finished outcome =>
      rw [state] at h
      cases outcome with
      | ok report => exact h
      | error e => trivial

theorem restoring_move {m : Move} (stage : Stage c s) (step : MoveStep c s s' m)
    (quiet : m.touchesRoutes = false) (routed : Routed initial s) (h : Restoring c initial s) :
    Restoring c initial s' := by
  cases step with
  | idle inner same =>
      rw [same]
      exact h
  | feel eq =>
      rw [eq]
      exact restoring_feel quiet h
  | task step beside unspent => exact h.congr beside.coordinator step.routes
  | oversee step overseen => exact restoring_coordinator stage step routed h

theorem restoring_course (c : Setup) {w : World} (trigger : Trigger) {moves : List Move}
    (willing : w.routes.Willing) (quiet : ∀ m ∈ moves, m.touchesRoutes = false) :
    Restoring c w.routes.table (course c w trigger moves) := by
  refine (course_induction (P := fun moves s => (∀ m ∈ moves, m.touchesRoutes = false) →
    Routed w.routes.table s ∧ Restoring c w.routes.table s) ?_ ?_ moves quiet).2
  · intro _
    refine ⟨routed_begun c w trigger, ?_⟩
    obtain ⟨w', -, relayed, -, -, ⟨e, -, eq⟩ | ⟨h, eq⟩⟩ := begun_cases c w trigger
    · rw [eq, conclude_error (s := (opened w trigger).withWorld w') rfl]
      trivial
    · rw [eq]
      change w'.routes.Willing
      rw [relayed.routes]
      exact willing
  · intro moves m s s' stage step ih quiet
    obtain ⟨routed, restoring⟩ := ih fun m hm => quiet m (List.mem_append_left _ hm)
    have last := quiet m (List.mem_append_right _ (List.mem_singleton_self m))
    exact ⟨routed_move stage step (Move.editsTable_of_touchesRoutes last) routed,
      restoring_move stage step last routed restoring⟩

/-! ## The way back -/

/-- A session over a granted address has returned and left the host as it was. -/
structure Restored (initial : RouteTable) (a : TunnelAddress) (s : Session) : Prop where
  returned : ∃ report, s.coordinator = .finished (.ok report) ∧ report.address = a ∧
    report.restore.isClean = true
  table : s.world.routes.table = initial
  device : ∃ device, s.world.device = some device ∧ device.up = false ∧ device.downCalls = 1
  inactive : s.world.socket.active = false

theorem restored_of_finished {a : TunnelAddress} {report : Report} (stage : Stage c s)
    (restoring : Restoring c initial s) (apart : c.Apart a initial)
    (state : s.coordinator = .finished (.ok report)) (address : report.address = a) :
    Restored initial a s := by
  rw [Restoring, state] at restoring
  obtain ⟨clean, table⟩ := restoring (by rw [address]; exact apart)
  obtain ⟨t, -, closed⟩ := (stage_finished_ok state).mp stage
  refine ⟨⟨report, state, address, clean⟩, table, ?_, closed.inactive⟩
  have standing := closed.device
  cases hd : s.world.device with
  | none => simp [hd] at standing
  | some device =>
      simp only [hd, Option.map_some, Option.some.injEq, Device.standing, Prod.mk.injEq] at standing
      exact ⟨device, rfl, standing.2.1, standing.2.2⟩

private theorem touchesRoutes_of_isInner {m : Move} (h : m.isInner = true) :
    m.touchesRoutes = false := by
  cases m with
  | task role obey => rfl
  | coordinator => rfl
  | stimulus x => cases x <;> first | rfl | cases h

/-- Nobody but the session changes the routing table or makes it refuse calls, and no host route
of others goes through the network of the granted address.  Then an established session that
returns has put the table back, and it does return once a cause to end it was met. -/
theorem restored_of_established {w : World} {trigger : Trigger} {before after : List Move}
    {t : Tunnel} (established : (course c w trigger before).coordinator = .awaiting t)
    (willing : w.routes.Willing) (quiet : ∀ m ∈ before ++ after, m.touchesRoutes = false)
    (apart : c.Apart t.address w.routes.table) :
    (∀ outcome, (course c w trigger (before ++ after)).coordinator = .finished outcome →
      Restored w.routes.table t.address (course c w trigger (before ++ after))) ∧
    (Ending (course c w trigger (before ++ after)) →
      Leads c (Restored w.routes.table t.address) (course c w trigger (before ++ after))) := by
  have address : ∀ more, address? (course c w trigger (before ++ more)).coordinator =
      some t.address := by
    intro more
    rw [course_append]
    refine address?_run (stage_course c w trigger before) (holds_course c w trigger before) ?_ more
    rw [established]
    rfl
  have restored : ∀ more outcome, (∀ m ∈ before ++ more, m.touchesRoutes = false) →
      (course c w trigger (before ++ more)).coordinator = .finished outcome →
      Restored w.routes.table t.address (course c w trigger (before ++ more)) := by
    intro more outcome quiet state
    have granted := address more
    rw [state] at granted
    cases outcome with
    | error e => cases granted
    | ok report =>
        exact restored_of_finished (stage_course c w trigger (before ++ more))
          (restoring_course c trigger willing quiet) apart state (Option.some.inj granted)
  constructor
  · intro outcome state
    exact restored after outcome quiet state
  · intro ending
    refine (leads_of_ending (address after) ending).mono ?_
    rintro s ⟨more, inner, rfl, report, state⟩
    rw [← course_append, List.append_assoc] at state ⊢
    refine restored (after ++ more) (.ok report) ?_ state
    intro m hm
    rw [← List.append_assoc] at hm
    rcases List.mem_append.mp hm with hm | hm
    · exact quiet m hm
    · exact touchesRoutes_of_isInner (inner m hm)

theorem restored_trial :
    (course Trial.setup Trial.world {} (Trial.opening ++ Trial.ending)).phase = .closed ∧
      Restored Trial.world.routes.table ⟨⟨0x0A000002⟩⟩
        (course Trial.setup Trial.world {} (Trial.opening ++ Trial.ending)) ∧
      Leads Trial.setup (Restored Trial.world.routes.table ⟨⟨0x0A000002⟩⟩)
        (course Trial.setup Trial.world {} (Trial.opening ++ Trial.ending)) := by
  have phase : (course Trial.setup Trial.world {} Trial.opening).phase = .established := by
    decide +kernel
  have granted : address? (course Trial.setup Trial.world {} Trial.opening).coordinator =
      some ⟨⟨0x0A000002⟩⟩ := by
    decide +kernel
  have returned : (course Trial.setup Trial.world {} (Trial.opening ++ Trial.ending)).phase =
      .closed ∧
      (course Trial.setup Trial.world {} (Trial.opening ++ Trial.ending)).reports ≠ [] := by
    decide +kernel
  obtain ⟨closed, reported⟩ := returned
  obtain ⟨t, established⟩ := awaiting_of_established (stage_course ..) phase
  rw [established] at granted
  cases t with
  | mk address snapshot =>
      cases granted
      have apart : Trial.setup.Apart ⟨⟨0x0A000002⟩⟩ Trial.world.routes.table := by
        unfold Setup.Apart
        decide
      have quiet : ∀ m ∈ Trial.opening ++ Trial.ending, m.touchesRoutes = false := by
        decide
      obtain ⟨restored, leads⟩ := restored_of_established established ⟨rfl, rfl⟩ quiet apart
      obtain ⟨outcome, finished⟩ := finished_of_closed (stage_course ..) closed
      exact ⟨closed, restored outcome finished, leads (.inl reported)⟩

end Session

end TunnelClient
