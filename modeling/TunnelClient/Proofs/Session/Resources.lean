import TunnelClient.Proofs.Session.Progress

/-!
# Phases and resources

The phase of a session and what it holds of the host.  Until a reply is accepted the
host is untouched; while the session is established one device is up at the granted
address and all traffic goes through it, but for that to the peer.  A phase that is to be
left is left.
-/

namespace TunnelClient

/-! ## The table -/

def Stimulus.editsTable : Stimulus → Bool
  | setDefault _ | clearHost _ | linkDown _ _ => true
  | _ => false

def Event.isOpening : Event → Bool
  | created _ (.ok ()) => true
  | _ => false

theorem World.table_feel {x : Stimulus} (quiet : x.editsTable = false) (w : World) :
    (w.feel x).routes.table = w.routes.table := by
  cases x with
  | setDefault gateway => cases quiet
  | clearHost host => cases quiet
  | linkDown address length => cases quiet
  | _ => rfl

namespace Session

def Move.editsTable : Move → Bool
  | .stimulus x => x.editsTable
  | _ => false

/-- The routing table as the session makes of the initial one, until the teardown ends. -/
def Routed (initial : RouteTable) (s : Session) : Prop :=
  match s.coordinator with
  | .handshaking _ => s.world.routes.table = initial
  | .awaiting t | .joining t _ _ _ =>
    initial.default = some t.snapshot.former ∧ initial.host? t.snapshot.peer = none ∧
      s.world.routes.table = t.snapshot.detour initial
  | .fresh | .finished _ => True

variable {c : Setup} {s s' : Session} {initial : RouteTable}

private theorem routed_awaiting {t : Tunnel} (state : s.coordinator = .awaiting t) :
    Routed initial s ↔ initial.default = some t.snapshot.former ∧
      initial.host? t.snapshot.peer = none ∧
      s.world.routes.table = t.snapshot.detour initial := by
  rw [Routed, state]

theorem routed_joining {t : Tunnel} {cause : Cause} {role : Role} {deadline : Nat}
    (state : s.coordinator = .joining t cause role deadline) :
    Routed initial s ↔ initial.default = some t.snapshot.former ∧
      initial.host? t.snapshot.peer = none ∧
      s.world.routes.table = t.snapshot.detour initial := by
  rw [Routed, state]

theorem Routed.congr (h : Routed initial s) (coordinator : s'.coordinator = s.coordinator)
    (table : s'.world.routes.table = s.world.routes.table) : Routed initial s' := by
  rw [Routed, coordinator, table]
  exact h

theorem TaskStep.routes {role : Role} (h : TaskStep c role s s') :
    s'.world.routes = s.world.routes := by
  cases h with
  | work _ _ relayed | meet _ _ _ _ relayed => exact relayed.routes
  | stop _ _ _ world =>
      rw [world]
  | report _ _ _ world =>
      rw [world]
      rfl

private theorem routed_settle {outcome : Except ClientError Tunnel} {w : World}
    (phase : s.phase = .handshaking) (turn : Handshake.Turn c s.world outcome w)
    (table : s.world.routes.table = initial) :
    Routed initial ((s.withWorld w).conclude outcome) := by
  cases turn with
  | @fail e | @undo _ _ e =>
      rw [conclude_error (s := s.withWorld w) phase]
      trivial
  | @accept _ t _ _ _ _ _ _ _ former fresh _ _ detour =>
      rw [table] at former fresh detour
      rw [conclude_ok (s := s.withWorld w) phase]
      exact ⟨former, fresh, detour⟩

private theorem routed_beginTeardown {t : Tunnel} (cause : Cause) (phase : s.phase = .established)
    (routed : initial.default = some t.snapshot.former ∧ initial.host? t.snapshot.peer = none ∧
      s.world.routes.table = t.snapshot.detour initial) :
    Routed initial (s.beginTeardown t cause) := by
  rw [beginTeardown_eq phase]
  exact routed

private theorem routed_joinNext {t : Tunnel} {cause : Cause} {role : Role}
    (phase : s.phase = .terminating)
    (routed : initial.default = some t.snapshot.former ∧ initial.host? t.snapshot.peer = none ∧
      s.world.routes.table = t.snapshot.detour initial) :
    Routed initial (s.joinNext t cause role) := by
  cases role with
  | uplink | downlink => exact routed
  | listener =>
      rw [joinNext, endTeardown_eq phase]
      trivial

theorem routed_coordinator (stage : Stage c s) (step : CoordinatorStep c s s')
    (h : Routed initial s) : Routed initial s' := by
  cases step with
  | settle state turn eq =>
      rw [Routed, state] at h
      rw [eq]
      exact routed_settle ((stage_handshaking state).mp stage).phase turn h
  | @receive t cause rest state queue eq =>
      rw [eq]
      exact routed_beginTeardown (s := { s with channel := rest }) cause
        ((stage_awaiting state).mp stage).phase ((routed_awaiting state).mp h)
  | despair state queue halted eq =>
      rw [eq]
      exact routed_beginTeardown _ ((stage_awaiting state).mp stage).phase
        ((routed_awaiting state).mp h)
  | join state halted eq =>
      rw [eq]
      exact routed_joinNext ((stage_joining state).mp stage).phase ((routed_joining state).mp h)
  | @abandon t cause role deadline state eq =>
      rw [eq]
      exact routed_joinNext (s := s.abandon role) ((stage_joining state).mp stage).phase
        ((routed_joining state).mp h)

theorem routed_begun (c : Setup) (w : World) (trigger : Trigger) :
    Routed w.routes.table (begun c w trigger) := by
  obtain ⟨w', -, relayed, -, -, ⟨e, -, eq⟩ | ⟨h, eq⟩⟩ := begun_cases c w trigger
  · rw [eq, conclude_error (s := (opened w trigger).withWorld w') rfl]
    trivial
  · rw [eq]
    exact congrArg FaultyRoutes.table relayed.routes

theorem routed_move {m : Move} (stage : Stage c s) (step : MoveStep c s s' m)
    (quiet : m.editsTable = false) (h : Routed initial s) : Routed initial s' := by
  cases step with
  | idle inner same =>
      rw [same]
      exact h
  | @feel x eq =>
      obtain ⟨hcoordinator, -, -, -, -, -, -, -, -, hworld⟩ := feel_frame x s
      rw [eq]
      refine h.congr hcoordinator ?_
      rw [hworld]
      exact World.table_feel quiet s.world
  | task step beside unspent =>
      exact h.congr beside.coordinator (congrArg FaultyRoutes.table step.routes)
  | oversee step overseen => exact routed_coordinator stage step h

theorem routed_course (c : Setup) (w : World) (trigger : Trigger) {moves : List Move}
    (alone : ∀ m ∈ moves, m.editsTable = false) :
    Routed w.routes.table (course c w trigger moves) := by
  refine course_induction (P := fun moves s => (∀ m ∈ moves, m.editsTable = false) →
    Routed w.routes.table s) (fun _ => routed_begun c w trigger) ?_ moves alone
  intro moves m s s' stage step ih alone
  exact routed_move stage step (alone m (List.mem_append_right _ (List.mem_singleton_self m)))
    (ih fun m hm => alone m (List.mem_append_left _ hm))

/-! ## Phases and resources -/

/-- How a session stands to the host, at any moment of a course. -/
structure Agreed (c : Setup) (initial : RouteTable) (s : Session) : Prop where
  untouched : (s.world.device = none ∧ ∀ e ∈ s.world.events, e.isHostWork = false) ∨
    ∃ a, Granted c a s.world.events
  established : s.phase = .established → ∃ t device former peer, s.coordinator = .awaiting t ∧
    Granted c t.address s.world.events ∧
    s.world.events.countP Event.isOpening = 1 ∧ s.world.device = some device ∧
    device.up = true ∧ device.settings = c.device.withAddress t.address.inner ∧
    s.world.routes.table.default = some t.address.gateway ∧
    initial.default = some former ∧ c.peer.address = .v4 peer ∧
    s.world.routes.table.host? peer = some former
  current : s.phases.getLast? = some s.phase
  visited : s.phases <+: [.disconnected, .handshaking, .closed] ∨
    s.phases <+: [.disconnected, .handshaking, .established, .terminating, .closed]
  returned : ∀ outcome, s.coordinator = .finished outcome →
    s.phases = [.disconnected, .handshaking, .closed] ∨
      s.phases = [.disconnected, .handshaking, .established, .terminating, .closed]
  valid : ∀ e, s.coordinator = .finished (.error e) → e.IsFailure
  decided : ∀ deadline, s.coordinator = .handshaking (.waiting deadline) →
    Leads c (fun s' => s'.phase = .established ∨
      s'.phases = [.disconnected, .handshaking, .closed]) s
  ends : s.phase = .terminating ∨ s.phase = .established ∧ Ending s →
    Leads c (fun s' =>
      s'.phases = [.disconnected, .handshaking, .established, .terminating, .closed]) s

theorem untouched_or_granted (stage : Stage c s) :
    (s.world.device = none ∧ ∀ e ∈ s.world.events, e.isHostWork = false) ∨
      ∃ a, Granted c a s.world.events := by
  cases state : s.coordinator with
  | fresh => simp [Stage, state] at stage
  | handshaking h =>
      have shaking := (stage_handshaking state).mp stage
      exact .inl ⟨shaking.device, shaking.idle⟩
  | awaiting t => exact .inr ⟨_, ((stage_awaiting state).mp stage).granted⟩
  | joining t cause role deadline => exact .inr ⟨_, ((stage_joining state).mp stage).granted⟩
  | finished outcome =>
      cases outcome with
      | ok report =>
          obtain ⟨t, -, closed⟩ := (stage_finished_ok state).mp stage
          exact .inr ⟨_, closed.granted⟩
      | error e =>
          have failed := (stage_finished_error state).mp stage
          obtain ⟨es, log, -, ⟨rfl, none⟩ | granted⟩ := failed.milestones
          · refine .inl ⟨none, Event.idle_of_milestones ?_⟩
            change ∀ e ∈ s.milestones, _
            rw [log]
            simp [Event.isHostWork]
          · exact .inr granted

theorem Carrying.holds {t : Tunnel} (h : Carrying c t s)
    (routed : initial.default = some t.snapshot.former ∧ initial.host? t.snapshot.peer = none ∧
      s.world.routes.table = t.snapshot.detour initial) :
    ∃ device, s.world.events.countP Event.isOpening = 1 ∧ s.world.device = some device ∧
      device.up = true ∧ device.settings = c.device.withAddress t.address.inner ∧
      s.world.routes.table.default = some t.address.gateway ∧
      s.world.routes.table.host? t.snapshot.peer = some t.snapshot.former := by
  obtain ⟨-, fresh, table⟩ := routed
  have one : s.world.events.countP Event.isOpening = 1 := by
    rw [← countP_milestones fun e he => by
      cases e <;> simp_all [Event.isOpening, Event.isMilestone, Event.isHostWork], h.milestones]
    rfl
  have standing := h.device
  cases hd : s.world.device with
  | none => simp [hd] at standing
  | some device =>
      simp only [hd, Option.map_some, Option.some.injEq, Device.standing, Prod.mk.injEq] at standing
      obtain ⟨settings, up, -⟩ := standing
      refine ⟨device, one, rfl, up, settings, ?_, ?_⟩
      · rw [table, ← h.gateway]
        rfl
      · rw [table]
        exact RouteTable.lookup_insertHost fresh _

theorem decided_course (c : Setup) (w : World) (trigger : Trigger) (moves : List Move)
    (deadline : Nat)
    (state : (course c w trigger moves).coordinator = .handshaking (.waiting deadline)) :
    Leads c (fun s => s.phase = .established ∨ s.phases = [.disconnected, .handshaking, .closed])
      (course c w trigger moves) := by
  have shaking := (stage_handshaking state).mp (stage_course c w trigger moves)
  refine (leads_of_handshaking shaking state).reached.mono ?_
  rintro s ⟨established | ⟨e, failed⟩, more, -, rfl⟩
  · exact .inl established
  · rw [← course_append] at failed ⊢
    rw [phases_eq_path (stage_course c w trigger (moves ++ more)), failed]
    exact .inr rfl

private theorem phases_of_returned {w : World} {trigger : Trigger} {moves : List Move} {s : Session}
    (returned : Returned c (course c w trigger moves) s) :
    s.phases = [.disconnected, .handshaking, .established, .terminating, .closed] := by
  obtain ⟨more, -, rfl, report, finished⟩ := returned
  rw [← course_append] at finished ⊢
  rw [phases_eq_path (stage_course c w trigger (moves ++ more)), finished]
  rfl

private theorem received_of_terminating (stage : Stage c s) (phase : s.phase = .terminating) :
    ∃ cause, s.coordinator.received? = some cause := by
  rw [phase_eq stage] at phase
  cases state : s.coordinator with
  | joining t cause role deadline => exact ⟨cause, rfl⟩
  | fresh | handshaking h | awaiting t =>
      rw [state] at phase
      cases phase
  | finished outcome =>
      rw [state] at phase
      cases outcome <;> cases phase

theorem ends_course (c : Setup) (w : World) (trigger : Trigger) (moves : List Move)
    (ending : (course c w trigger moves).phase = .terminating ∨
      (course c w trigger moves).phase = .established ∧ Ending (course c w trigger moves)) :
    Leads c (fun s =>
        s.phases = [.disconnected, .handshaking, .established, .terminating, .closed])
      (course c w trigger moves) := by
  have stage := stage_course c w trigger moves
  rcases ending with terminating | ⟨established, met⟩
  · obtain ⟨cause, received⟩ := received_of_terminating stage terminating
    exact (leads_of_received received).mono fun s => phases_of_returned
  · obtain ⟨t, state⟩ := awaiting_of_established stage established
    have granted : address? (course c w trigger moves).coordinator = some t.address := by
      rw [state]
      rfl
    exact (leads_of_ending granted met).mono fun s => phases_of_returned

/-- At every moment a session and the host agree, if nobody else edits the routing table. -/
theorem agreed_course {w : World} {trigger : Trigger} {moves : List Move}
    (alone : ∀ m ∈ moves, m.editsTable = false) :
    Agreed c w.routes.table (course c w trigger moves) := by
  have stage := stage_course c w trigger moves
  have routed := routed_course c w trigger alone
  have visited := phases_eq_path stage
  have decided := decided_course c w trigger moves
  have ends := ends_course c w trigger moves
  generalize course c w trigger moves = s at *
  constructor
  · exact untouched_or_granted stage
  · intro phase
    obtain ⟨t, state⟩ := awaiting_of_established stage phase
    have carrying := (stage_awaiting state).mp stage
    have routed := (routed_awaiting state).mp routed
    obtain ⟨device, one, hdevice, up, settings, gateway, host⟩ := carrying.holds routed
    exact ⟨t, device, t.snapshot.former, t.snapshot.peer, state, carrying.granted, one, hdevice,
      up, settings, gateway, routed.1, carrying.peer, host⟩
  · rw [visited, phase_eq stage]
    exact getLast?_path s.coordinator
  · rw [visited]
    cases s.coordinator with
    | fresh | handshaking h | awaiting t | joining t cause role deadline =>
        exact .inr (by simp [path])
    | finished outcome =>
        cases outcome with
        | ok report => exact .inr (by simp [path])
        | error e => exact .inl (by simp [path])
  · intro outcome state
    rw [visited, state]
    cases outcome with
    | ok report => exact .inr rfl
    | error e => exact .inl rfl
  · intro e state
    exact ((stage_finished_error state).mp stage).failure
  · exact decided
  · exact ends

theorem agreed_trial :
    (∀ m ∈ Trial.opening, m.editsTable = false) ∧
      (course Trial.setup Trial.world {} Trial.opening).phase = .established ∧
      Agreed Trial.setup Trial.world.routes.table
        (course Trial.setup Trial.world {} Trial.opening) := by
  have alone : ∀ m ∈ Trial.opening, m.editsTable = false := by decide
  exact ⟨alone, by decide +kernel, agreed_course alone⟩

end Session

end TunnelClient
