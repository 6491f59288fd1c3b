import TunnelClient.Proofs.Session.Termination

/-!
# The teardown

What a teardown does to the host.  Four calls install the detour and three take it
back; in between the device goes down once and the socket is closed, and that is
the order however the calls go.
-/

namespace TunnelClient

/-! ## Calls -/

def RouteSnapshot.attempts (s : RouteSnapshot) : List RouteCall :=
  [.read, .change (.setHost s.former s.peer), .change .clearDefault, .change (.setDefault s.tunnel),
   .change .clearDefault, .change (.setDefault s.former), .change (.clearHost s.peer)]

namespace Session

def calls (s : Session) : List RouteCall := s.world.events.filterMap Event.routeCall?

def Move.isClosing : Move → Bool
  | .stimulus .close => true
  | _ => false

variable {c : Setup} {s s' : Session} {t : Tunnel}

private theorem routeCall?_closingLog (c : Setup) (t : Tunnel) (abandoned : List Role) :
    (closingLog c t abandoned).filterMap Event.routeCall? = t.snapshot.attempts.take 4 := by
  have none : (abandoned.map Event.abandoned).filterMap Event.routeCall? = [] := by
    simp [List.filterMap_eq_nil_iff, Event.routeCall?]
  rw [closingLog, List.filterMap_append, none, List.append_nil]
  rfl

private theorem calls_eq (s : Session) : s.calls = s.milestones.filterMap Event.routeCall? := by
  refine (filterMap_milestones ?_ s).symm
  intro e he
  cases e <;> simp_all [Event.routeCall?, Event.isMilestone, Event.isHostWork]

theorem Carrying.calls (h : Carrying c t s) : s.calls = t.snapshot.attempts.take 4 := by
  rw [calls_eq, h.milestones]
  rfl

theorem Joining.calls {role : Role} (h : Joining c t role s) :
    s.calls = t.snapshot.attempts.take 4 := by
  rw [calls_eq, h.milestones, routeCall?_closingLog]

theorem Closed.calls (h : Closed c t s) : s.calls = t.snapshot.attempts := by
  obtain ⟨undoing, ⟨_, _, _, _, _, _, _, _, rfl⟩, log⟩ := h.milestones
  rw [calls_eq, log, List.filterMap_append, routeCall?_closingLog]
  rfl

/-! ## Closing the socket -/

private theorem phase_of_coordinatorStep (stage : Stage c s) (step : CoordinatorStep c s s') :
    s.phase ≠ .closed := by
  rw [phase_eq stage]
  cases step with
  | settle state | receive state | despair state | join state | abandon state =>
      simp [state, phaseOf]

/-- The socket is closed once by the session itself, and whenever others close it. -/
theorem countP_isClosing_course (c : Setup) (w : World) (trigger : Trigger) (moves : List Move) :
    (course c w trigger moves).world.events.countP Event.isClosing =
      moves.countP Move.isClosing +
        if (course c w trigger moves).phase = .closed then 1 else 0 := by
  refine course_induction (P := fun moves s => s.world.events.countP Event.isClosing =
    moves.countP Move.isClosing + if s.phase = .closed then 1 else 0) ?_ ?_ moves
  · obtain ⟨es, hes, -, closing⟩ := (overseen_begun c w trigger).events
    rw [hes, List.countP_append, closing]
    rfl
  · intro moves m s s' stage step ih
    rw [List.countP_append]
    cases step with
    | idle inner same =>
        have none : [m].countP Move.isClosing = 0 := by
          cases m with
          | stimulus x => exact absurd rfl (inner x)
          | task role obey => rfl
          | coordinator => rfl
        rw [same, none]
        exact ih
    | @feel x eq =>
        obtain ⟨-, hphase, -, -, -, -, -, -, -, hworld⟩ := feel_frame x s
        obtain ⟨-, -, hevents⟩ := World.feel_spec x s.world
        rw [eq, hphase, hworld, hevents, List.countP_append, ih]
        have one : (if x = .close then [Event.closed s.world.socket.close.1] else []).countP
            Event.isClosing = [Move.stimulus x].countP Move.isClosing := by
          cases x <;> rfl
        omega
    | task step beside unspent =>
        obtain ⟨es, hes, -, none⟩ := step.events
        rw [hes, beside.phase, List.countP_append, ih, none]
        simp [Move.isClosing]
    | oversee step overseen =>
        obtain ⟨es, hes, -, closing⟩ := overseen.events
        rw [hes, List.countP_append, ih, closing, if_neg (phase_of_coordinatorStep stage step)]
        simp [Move.isClosing]

/-! ## The order of a teardown -/

/-- What a teardown in full has left in the log. -/
structure TornDown (moves : List Move) (t : Tunnel) (s : Session) : Prop where
  calls : s.calls = t.snapshot.attempts
  events : ∃ before undoing after, s.world.events = before ++ undoing ++ after ∧
    Undoing t.snapshot undoing ∧ (∀ e ∈ before ++ after, e.isLowering = false) ∧
    (before ++ after).countP Event.isClosing = moves.countP Move.isClosing ∧
    ((∀ role, .abandoned role ∉ s.world.events) → ∀ e ∈ after, e.isTraffic = false)

private theorem tornDown_of_closed {moves : List Move} {report : Report} (stage : Stage c s)
    (state : s.coordinator = .finished (.ok report)) (closed : Closed c t s)
    (closings : s.world.events.countP Event.isClosing =
      moves.countP Move.isClosing + if s.phase = .closed then 1 else 0) :
    TornDown moves t s := by
  obtain ⟨before, undoing, after, hevents, hlog, hundoing, quiet, still⟩ := closed.events
  have received : s.coordinator.received? = some report.cause := by
    rw [state]
    rfl
  have lowerings := countP_isLowering stage received
  have one : undoing.countP Event.isLowering = 1 ∧ undoing.countP Event.isClosing = 1 := by
    obtain ⟨_, _, _, _, _, _, _, _, rfl⟩ := hundoing
    exact ⟨rfl, rfl⟩
  rw [closed.phase, if_pos rfl, hevents, List.countP_append, List.countP_append] at lowerings
  rw [closed.phase, if_pos rfl, hevents, List.countP_append, List.countP_append] at closings
  refine ⟨closed.calls, before, undoing, after, hevents, hundoing, ?_, ?_, ?_⟩
  · have none : (before ++ after).countP Event.isLowering = 0 := by
      rw [List.countP_append]
      omega
    intro e he
    simpa using List.countP_eq_zero.mp none e he
  · rw [List.countP_append]
    omega
  · intro joined
    apply still
    cases given : s.abandoned with
    | nil => rfl
    | cons role rest =>
        have logged : .abandoned role ∈ before.filter Event.isMilestone := by
          rw [hlog, given]
          simp [closingLog]
        have : .abandoned role ∈ s.world.events := by
          rw [hevents, List.append_assoc]
          exact List.mem_append_left _ (List.mem_filter.mp logged).1
        exact absurd this (joined role)

private theorem read_of_milestones (log : openingLog c t <+: s.milestones) :
    .route (.read true (.ok t.snapshot.former)) ∈ s.world.events := by
  have opening : .route (.read true (.ok t.snapshot.former)) ∈ openingLog c t := by
    simp [openingLog, Tunnel.log, RouteSnapshot.log]
  exact (List.mem_filter.mp (log.subset opening)).1

/-- A session that was established makes its calls on the host in one order: four on the routing
table, and once it has closed the device, the socket, and three more on the table. -/
theorem teardown_of_established {w : World} {trigger : Trigger} {moves : List Move}
    (established : .established ∈ (course c w trigger moves).phases) :
    ∃ t, c.peer.address = .v4 t.snapshot.peer ∧ t.snapshot.tunnel = t.address.gateway ∧
      Granted c t.address (course c w trigger moves).world.events ∧
      .route (.read true (.ok t.snapshot.former)) ∈ (course c w trigger moves).world.events ∧
      ((course c w trigger moves).phase ≠ .closed →
        (course c w trigger moves).calls = t.snapshot.attempts.take 4 ∧
        (course c w trigger moves).world.events.countP Event.isLowering = 0) ∧
      ((course c w trigger moves).phase = .closed →
        ∃ report, (course c w trigger moves).coordinator = .finished (.ok report) ∧
          report.address = t.address ∧ TornDown moves t (course c w trigger moves)) := by
  have stage := stage_course c w trigger moves
  have closings := countP_isClosing_course c w trigger moves
  rw [phases_eq_path stage] at established
  generalize course c w trigger moves = s at *
  cases state : s.coordinator with
  | fresh | handshaking h =>
      rw [state] at established
      simp [path] at established
  | awaiting t =>
      have carrying := (stage_awaiting state).mp stage
      have log : openingLog c t <+: s.milestones :=
        ⟨[], by rw [List.append_nil, carrying.milestones]⟩
      refine ⟨t, carrying.peer, carrying.gateway, carrying.granted, read_of_milestones log, ?_, ?_⟩
      · intro _
        refine ⟨carrying.calls, ?_⟩
        rw [← countP_isLowering_eq, carrying.milestones]
        exact countP_openingLog t rfl rfl rfl
      · intro closed
        rw [carrying.phase] at closed
        cases closed
  | joining t cause role deadline =>
      have joining := (stage_joining state).mp stage
      have log : openingLog c t <+: s.milestones := by
        rw [joining.milestones, closingLog, List.append_assoc]
        exact List.prefix_append ..
      refine ⟨t, joining.peer, joining.gateway, joining.granted, read_of_milestones log, ?_, ?_⟩
      · intro _
        refine ⟨joining.calls, ?_⟩
        have received : s.coordinator.received? = some cause := by
          rw [state]
          rfl
        rw [countP_isLowering stage received, joining.phase]
        rfl
      · intro closed
        rw [joining.phase] at closed
        cases closed
  | finished outcome =>
      cases outcome with
      | error e =>
          rw [state] at established
          simp [path] at established
      | ok report =>
          obtain ⟨t, address, closed⟩ := (stage_finished_ok state).mp stage
          obtain ⟨undoing, -, hlog⟩ := closed.milestones
          have log : openingLog c t <+: s.milestones := by
            rw [hlog, closingLog, List.append_assoc, List.append_assoc]
            exact List.prefix_append ..
          refine ⟨t, closed.peer, closed.gateway, closed.granted, read_of_milestones log, ?_, ?_⟩
          · intro running
            exact absurd closed.phase running
          · intro _
            exact ⟨report, rfl, address.symm, tornDown_of_closed stage state closed closings⟩

theorem teardown_of_trial :
    .established ∈ (course Trial.setup Trial.world {} (Trial.opening ++ Trial.ending)).phases ∧
      ∃ t report, (course Trial.setup Trial.world {} (Trial.opening ++ Trial.ending)).coordinator =
          .finished (.ok report) ∧
        TornDown (Trial.opening ++ Trial.ending) t
          (course Trial.setup Trial.world {} (Trial.opening ++ Trial.ending)) := by
  have established : .established ∈
      (course Trial.setup Trial.world {} (Trial.opening ++ Trial.ending)).phases := by
    decide +kernel
  have closed : (course Trial.setup Trial.world {} (Trial.opening ++ Trial.ending)).phase =
      .closed := by
    decide +kernel
  obtain ⟨t, -, -, -, -, -, full⟩ := teardown_of_established established
  obtain ⟨report, state, -, tornDown⟩ := full closed
  exact ⟨established, t, report, state, tornDown⟩

end Session

end TunnelClient
