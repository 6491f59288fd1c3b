import TunnelClient.Proofs.Session.Progress

/-!
# Termination

How an established session comes to its end.  The first report decides; the teardown that
follows it begins once, is heard by every task that still runs, and leads to a session that
is closed.
-/

namespace TunnelClient

def Event.isHerald : Event → Bool
  | entered .terminating | broadcast => true
  | _ => false

def Event.isLowering : Event → Bool
  | lowered _ => true
  | _ => false

namespace Session

variable {c : Setup} {trigger : Trigger} {moves : List Move} {s s' : Session}

/-! ## Milestones counted -/

theorem countP_openingLog {p : Event → Bool} (t : Tunnel) (log : (t.log c).countP p = 0)
    (handshaking : p (.entered .handshaking) = false)
    (established : p (.entered .established) = false) : (openingLog c t).countP p = 0 := by
  simp [openingLog, List.countP_append, log, handshaking, established]

private theorem countP_closingLog {p : Event → Bool} (t : Tunnel) (abandoned : List Role)
    (opening : (openingLog c t).countP p = 0) (given : ∀ role, p (.abandoned role) = false) :
    (closingLog c t abandoned).countP p =
      [Event.entered .terminating, .broadcast].countP p := by
  have none : (abandoned.map Event.abandoned).countP p = 0 := by
    rw [List.countP_eq_zero]
    intro e he
    obtain ⟨role, -, rfl⟩ := List.mem_map.mp he
    simp [given role]
  rw [closingLog, List.countP_append, List.countP_append, opening, none]
  omega

private theorem countP_isHerald (stage : Stage c s) : s.world.events.countP Event.isHerald =
    if s.coordinator.received?.isSome then 2 else 0 := by
  have opening : ∀ t, (openingLog c t).countP Event.isHerald = 0 :=
    fun t => countP_openingLog t rfl rfl rfl
  have closing : ∀ t abandoned, (closingLog c t abandoned).countP Event.isHerald = 2 :=
    fun t abandoned => countP_closingLog t abandoned (opening t) fun _ => rfl
  rw [← countP_milestones fun e he => by cases e <;> simp_all [Event.isHerald, Event.isMilestone]]
  cases state : s.coordinator with
  | fresh => simp [Stage, state] at stage
  | handshaking h =>
      rw [((stage_handshaking state).mp stage).milestones]
      rfl
  | awaiting t =>
      rw [((stage_awaiting state).mp stage).milestones, opening t]
      rfl
  | joining t cause role deadline =>
      rw [((stage_joining state).mp stage).milestones, closing t]
      rfl
  | finished outcome =>
      cases outcome with
      | error e =>
          obtain ⟨es, log, work, -⟩ := ((stage_finished_error state).mp stage).milestones
          have none : es.countP Event.isHerald = 0 := by
            rw [List.countP_eq_zero]
            intro e he
            have := work e he
            cases e <;> simp_all [Event.isHerald, Event.isHostWork]
          rw [log, List.cons_append, List.countP_cons, List.countP_append, none]
          rfl
      | ok report =>
          obtain ⟨t, -, closed⟩ := (stage_finished_ok state).mp stage
          obtain ⟨undoing, ⟨_, _, _, _, _, _, _, _, rfl⟩, log⟩ := closed.milestones
          rw [log, List.countP_append, closing t]
          rfl

theorem countP_isLowering_eq (s : Session) :
    s.milestones.countP Event.isLowering = s.world.events.countP Event.isLowering := by
  refine countP_milestones ?_ s
  intro e he
  cases e <;> simp_all [Event.isLowering, Event.isMilestone, Event.isHostWork]

theorem countP_isLowering {cause : Cause} (stage : Stage c s)
    (received : s.coordinator.received? = some cause) :
    s.world.events.countP Event.isLowering = if s.phase = .closed then 1 else 0 := by
  have closing : ∀ t abandoned, (closingLog c t abandoned).countP Event.isLowering = 0 :=
    fun t abandoned =>
      countP_closingLog t abandoned (countP_openingLog t rfl rfl rfl) fun _ => rfl
  rw [← countP_isLowering_eq]
  cases state : s.coordinator with
  | fresh | handshaking h | awaiting t =>
      rw [state] at received
      cases received
  | joining t cause role deadline =>
      have joining := (stage_joining state).mp stage
      rw [joining.milestones, closing t, joining.phase]
      rfl
  | finished outcome =>
      cases outcome with
      | error e =>
          rw [state] at received
          cases received
      | ok report =>
          obtain ⟨t, -, closed⟩ := (stage_finished_ok state).mp stage
          obtain ⟨undoing, ⟨_, _, _, _, _, _, _, _, rfl⟩, log⟩ := closed.milestones
          rw [log, List.countP_append, closing t, closed.phase]
          rfl

/-! ## Hearing the broadcast -/

/-- A task is where it can be told to stop. -/
def Waits (role : Role) (s : Session) : Prop :=
  match role with
  | .uplink => s.uplink = .running .waiting
  | .downlink => s.downlink = .running .waiting
  | .listener => ∃ l, s.listener = .running l

private theorem cancel_told (input : Option (Loop × Traffic)) (t : Traffic) :
    Relay.cancel true true input t = some (.ended none, t) := by
  cases input <;> rfl

private theorem stepRole_of_told {role : Role} (told : role ∈ s.told) (waits : Waits role s) :
    ∃ s', s.stepRole c role true = some s' ∧ s'.status role = .finished := by
  have heard : s.told.contains role = true := List.contains_iff_mem.mpr told
  cases role with
  | uplink =>
      have step : s.stepRole c .uplink true = some { s with uplink := .finished } := by
        simp only [stepRole, stepUplink, show s.uplink = .running .waiting from waits, heard,
          Relay.uplinkStep, cancel_told, Option.map_some, afterLoop]
      exact ⟨_, step, rfl⟩
  | downlink =>
      have step : s.stepRole c .downlink true = some { s with downlink := .finished } := by
        simp only [stepRole, stepDownlink, show s.downlink = .running .waiting from waits, heard,
          Relay.downlinkStep, cancel_told, Option.map_some, afterLoop]
      exact ⟨_, step, rfl⟩
  | listener =>
      obtain ⟨l, running⟩ := waits
      have step : s.stepRole c .listener true = some { s with listener := .finished } := by
        cases l with
        | fresh => simp only [stepRole, stepListener, running, heard, Bool.and_self, if_true]
        | waiting =>
            cases hr : s.trigger.request? <;>
              simp only [stepRole, stepListener, running, heard, hr, Bool.and_self, if_true]
      exact ⟨_, step, rfl⟩

/-! ## The protocol -/

/-- How the tasks, the channel and the coordinator end a session, at any moment of a course. -/
structure Orderly (c : Setup) (trigger : Trigger) (moves : List Move) (s : Session) : Prop where
  once : ∀ role, tally role s.reports ≤ 1
  queue : s.reports = s.coordinator.received?.toList ++ s.channel
  bounded : s.reports.length ≤ channelCapacity
  unblocked : ∀ role cause obey, s.status role = .reporting cause →
    ∃ s', s.stepRole c role obey = some s' ∧ s'.status role = .finished ∧
      s'.reports = s.reports ++ [cause]
  met : ∀ cause ∈ s.reports, cause ≠ .aborted ∧
    cause.Met c s.world.events (Asked trigger moves) (trigger.taken = true)
  first : ∀ cause, s.coordinator.received? = some cause →
    s.reports.head? = some cause ∧
      ∀ more, (run c s more).coordinator.received? = some cause
  heralded : ∀ cause, s.coordinator.received? = some cause →
    ∃ before after, s.world.events = before ++ .entered .terminating :: .broadcast :: after ∧
      (before.filterMap Event.report?).head? = some cause ∧
      ∀ e ∈ before ++ after, e.isHerald = false
  unheralded : s.coordinator.received? = none → ∀ e ∈ s.world.events, e.isHerald = false
  lowered : ∀ cause, s.coordinator.received? = some cause →
    s.world.events.countP Event.isLowering = if s.phase = .closed then 1 else 0
  told : ∀ cause, s.coordinator.received? = some cause →
    ∀ role, s.status role ≠ .finished → role ∈ s.told
  heard : ∀ cause, s.coordinator.received? = some cause → ∀ role, Waits role s →
    ∃ s', s.stepRole c role true = some s' ∧ s'.status role = .finished
  closes : ∀ cause, s.coordinator.received? = some cause →
    Leads c (fun s' => s'.phase = .closed ∧ s'.coordinator.received? = some cause) s

private theorem mem_roles (role : Role) : role ∈ roles := by
  cases role <;> simp [roles]

private theorem told_of_received {cause : Cause} (stage : Stage c s)
    (received : s.coordinator.received? = some cause) : s.told = roles := by
  cases state : s.coordinator with
  | fresh | handshaking h | awaiting t =>
      rw [state] at received
      cases received
  | joining t cause role deadline => exact ((stage_joining state).mp stage).told
  | finished outcome =>
      cases outcome with
      | error e =>
          rw [state] at received
          cases received
      | ok report =>
          obtain ⟨t, -, closed⟩ := (stage_finished_ok state).mp stage
          exact closed.told

theorem received_run {cause : Cause} (stage : Stage c s) (held : HoldsWhatItRead s)
    (received : s.coordinator.received? = some cause) (more : List Move) :
    (run c s more).coordinator.received? = some cause := by
  refine (run_induction (P := fun _ s => s.coordinator.received? = some cause) stage held received
    ?_ more).1
  intro _ m s₁ s₂ stage₁ step received₁
  cases step with
  | idle inner same => rw [same, received₁]
  | @feel x eq => rw [eq, (feel_frame x s₁).1, received₁]
  | task step beside unspent => rw [beside.coordinator, received₁]
  | oversee step overseen =>
      have busy : s₁.coordinator.received? = none → s₁.told = [] →
          (∀ role, s₁.status role = .finished) → s₁.channel ≠ [] := by
        intro none
        rw [received₁] at none
        cases none
      rcases received_coordinator stage₁ step busy with ⟨same, -⟩ | ⟨_, none, -⟩
      · rw [same, received₁]
      · rw [received₁] at none
        cases none

/-- From a cause that the coordinator has received the way leads to the closed session that returns
with it. -/
theorem closes_of_received {cause : Cause} {w : World}
    (received : (course c w trigger moves).coordinator.received? = some cause) :
    Leads c (fun s => s.phase = .closed ∧ s.coordinator.received? = some cause)
      (course c w trigger moves) := by
  refine (leads_of_received received).mono ?_
  rintro s ⟨more, -, rfl, report, finished⟩
  have kept := received_run (stage_course c w trigger moves) (holds_course c w trigger moves)
    received more
  rw [← course_append] at finished kept ⊢
  have stage := stage_course c w trigger (moves ++ more)
  refine ⟨?_, kept⟩
  rw [phase_eq stage, finished]
  rfl

theorem closes_trial :
    (course Trial.setup Trial.world {} (Trial.opening ++ Trial.ending.take 9)).phase =
        .terminating ∧
      Leads Trial.setup (fun s => s.phase = .closed ∧
          s.coordinator.received? = some (.uplink (.ofHost (.sendFailed Trial.setup.peer "gone"))))
        (course Trial.setup Trial.world {} (Trial.opening ++ Trial.ending.take 9)) := by
  have terminating : (course Trial.setup Trial.world {}
        (Trial.opening ++ Trial.ending.take 9)).phase = .terminating ∧
      (course Trial.setup Trial.world {}
        (Trial.opening ++ Trial.ending.take 9)).coordinator.received? =
          some (.uplink (.ofHost (.sendFailed Trial.setup.peer "gone"))) := by
    decide +kernel
  exact ⟨terminating.1, closes_of_received terminating.2⟩

theorem Accounts.heralded_once {cause : Cause} (h : Accounts c trigger moves s)
    (stage : Stage c s) (received : s.coordinator.received? = some cause) :
    ∃ before after, s.world.events = before ++ .entered .terminating :: .broadcast :: after ∧
      (before.filterMap Event.report?).head? = some cause ∧
      ∀ e ∈ before ++ after, e.isHerald = false := by
  obtain ⟨before, after, hevents, first⟩ := h.heralded cause received
  refine ⟨before, after, hevents, first, ?_⟩
  have count := countP_isHerald stage
  rw [received, hevents, List.countP_append, List.countP_cons_of_pos (by rfl),
    List.countP_cons_of_pos (by rfl)] at count
  have none : (before ++ after).countP Event.isHerald = 0 := by
    rw [List.countP_append]
    simp only [Option.isSome_some, if_true] at count
    omega
  intro e he
  simpa using List.countP_eq_zero.mp none e he

/-- Whatever happens in whatever order, a session is ended by the first report. -/
theorem orderly_course (c : Setup) (w : World) (trigger : Trigger) (moves : List Move) :
    Orderly c trigger moves (course c w trigger moves) := by
  have accounts := accounts_course c w trigger moves
  have stage := stage_course c w trigger moves
  have held := holds_course c w trigger moves
  constructor
  · exact accounts.once
  · exact accounts.queue
  · exact accounts.length_le
  · intro role cause obey ready
    exact stepRole_of_reporting obey ready (accounts.room ready)
  · intro cause hcause
    refine ⟨?_, accounts.met cause hcause⟩
    obtain ⟨role, own⟩ := accounts.own cause hcause
    rintro rfl
    cases own
  · intro cause received
    refine ⟨?_, received_run stage held received⟩
    rw [accounts.queue, received]
    rfl
  · intro cause received
    exact accounts.heralded_once stage received
  · intro none e he
    have count := countP_isHerald stage
    rw [none] at count
    simpa using List.countP_eq_zero.mp count e he
  · intro cause received
    exact countP_isLowering stage received
  · intro cause received role _
    rw [told_of_received stage received]
    exact mem_roles role
  · intro cause received role waits
    refine stepRole_of_told ?_ waits
    rw [told_of_received stage received]
    exact mem_roles role
  · intro cause received
    exact closes_of_received received

end Session

end TunnelClient
