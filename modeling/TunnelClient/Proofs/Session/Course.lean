import Mathlib.Data.List.Induction
import TunnelClient.Proofs.Session.Stages

/-!
# Courses of a session

Courses of a session from its start.  Whatever its tasks, its coordinator and the world
around do, and in whatever order, it stays within its stages; what each move keeps is
kept all along.
-/

namespace TunnelClient

namespace Session

variable {c : Setup} {s s' : Session}

/-! ## What the coordinator adds -/

/-- What a move of the coordinator does to the tasks and to the log. -/
structure Overseen (s s' : Session) : Prop where
  trigger : s'.trigger = s.trigger
  tasks : (s'.uplink = s.uplink ∧ s'.downlink = s.downlink ∧ s'.listener = s.listener) ∨
    (∀ role, s.status role = .unborn) ∧ s'.uplink = .running .waiting ∧
      s'.downlink = .running .waiting ∧ s'.listener = .running .fresh
  events : ∃ es, s'.world.events = s.world.events ++ es ∧ es.filterMap Event.report? = [] ∧
    es.countP Event.isClosing = if s'.phase = .closed then 1 else 0

private theorem overseen_conclude_error {e : ClientError} {w : World} {es : List Event}
    (phase : s.phase = .handshaking) (events : w.events = s.world.events ++ es)
    (calls : ∀ e ∈ es, e.isTraffic = true ∨ e.isHostWork = true) :
    Overseen s ((s.withWorld w).conclude (.error e)) := by
  obtain ⟨-, -, -, outcome, hevents⟩ := World.closeSocket_spec (w.record (Event.entered .closed))
  obtain ⟨silent, open'⟩ := Event.plain_of_calls calls
  rw [conclude_error (s := s.withWorld w) phase]
  refine ⟨rfl, .inl ⟨rfl, rfl, rfl⟩, es ++ [.entered .closed, .closed outcome], ?_, ?_, ?_⟩
  · change (w.record (Event.entered .closed)).closeSocket.events = _
    rw [hevents]
    simp [World.record, events]
  · simp [List.filterMap_append, silent, Event.report?]
  · rw [List.countP_append, open']
    rfl

private theorem overseen_conclude_ok {t : Tunnel} {w : World} {es : List Event}
    (phase : s.phase = .handshaking) (unborn : ∀ role, s.status role = .unborn)
    (events : w.events = s.world.events ++ es)
    (calls : ∀ e ∈ es, e.isTraffic = true ∨ e.isHostWork = true) :
    Overseen s ((s.withWorld w).conclude (.ok t)) := by
  obtain ⟨silent, open'⟩ := Event.plain_of_calls calls
  rw [conclude_ok (s := s.withWorld w) phase]
  refine ⟨rfl, .inr ⟨unborn, rfl, rfl, rfl⟩, es ++ [.entered .established], ?_, ?_, ?_⟩
  · change w.events ++ [Event.entered .established] = _
    rw [events, List.append_assoc]
  · simp [List.filterMap_append, silent, Event.report?]
  · rw [List.countP_append, open']
    rfl

private theorem overseen_settle {outcome : Except ClientError Tunnel} {w : World}
    (shaking : Shaking s) (turn : Handshake.Turn c s.world outcome w) :
    Overseen s ((s.withWorld w).conclude outcome) := by
  obtain ⟨es, hes, calls⟩ := turn.events
  cases outcome with
  | error e => exact overseen_conclude_error shaking.phase hes calls
  | ok t => exact overseen_conclude_ok shaking.phase shaking.unborn hes calls

private theorem overseen_beginTeardown {t : Tunnel} (cause : Cause)
    (phase : s.phase = .established) : Overseen s (s.beginTeardown t cause) := by
  rw [beginTeardown_eq phase]
  refine ⟨rfl, .inl ⟨rfl, rfl, rfl⟩, [.entered .terminating, .broadcast], ?_, rfl, rfl⟩
  change (s.world.events ++ [Event.entered .terminating]) ++ [Event.broadcast] = _
  rw [List.append_assoc]
  rfl

private theorem overseen_endTeardown {t : Tunnel} {cause : Cause} (phase : s.phase = .terminating) :
    Overseen s (s.endTeardown t cause) := by
  obtain ⟨-, -, -, down, hdown⟩ := World.bringDown_spec s.world
  obtain ⟨-, -, -, shut, hshut⟩ := World.closeSocket_spec s.world.bringDown
  obtain ⟨-, b₁, b₂, b₃, cleared, restored, removed, hrestore⟩ :=
    World.restore_spec t.snapshot s.world.bringDown.closeSocket
  rw [endTeardown_eq phase]
  generalize Detour.restore World.router t.snapshot s.world.bringDown.closeSocket = undone at *
  rw [hshut, hdown] at hrestore
  refine ⟨rfl, .inl ⟨rfl, rfl, rfl⟩, [.lowered down, .closed shut,
    .route (.change b₁ .clearDefault cleared),
    .route (.change b₂ (.setDefault t.snapshot.former) restored),
    .route (.change b₃ (.clearHost t.snapshot.peer) removed), .entered .closed], ?_, rfl, rfl⟩
  change undone.2.events ++ [Event.entered .closed] = _
  rw [hrestore]
  simp

private theorem overseen_joinNext {t : Tunnel} {cause : Cause} {role : Role}
    (phase : s.phase = .terminating) : Overseen s (s.joinNext t cause role) := by
  have unmoved : (if s.phase = .closed then 1 else 0) = 0 := by
    rw [phase]
    rfl
  cases role with
  | uplink | downlink =>
      exact ⟨rfl, .inl ⟨rfl, rfl, rfl⟩, [], (List.append_nil _).symm, rfl, unmoved.symm⟩
  | listener => exact overseen_endTeardown phase

theorem Overseen.of_abandon {role : Role} (h : Overseen (s.abandon role) s') :
    Overseen s s' := by
  obtain ⟨es, hes, silent, closing⟩ := h.events
  refine ⟨h.trigger, ?_, .abandoned role :: es, ?_, ?_, ?_⟩
  · rcases h.tasks with same | ⟨unborn, spawned⟩
    · exact .inl same
    · refine .inr ⟨?_, spawned⟩
      intro r
      have := unborn r
      cases r with
      | uplink | downlink | listener => exact this
  · rw [hes]
    change (s.world.events ++ [Event.abandoned role]) ++ es = _
    rw [List.append_assoc]
    rfl
  · rw [List.filterMap_cons]
    exact silent
  · rw [List.countP_cons, closing]
    rfl

theorem overseen_coordinator (h : Stage c s) (step : CoordinatorStep c s s') :
    Overseen s s' := by
  cases step with
  | settle state turn eq =>
      rw [eq]
      exact overseen_settle ((stage_handshaking state).mp h) turn
  | @receive t cause rest state queue eq =>
      have phase := ((stage_awaiting state).mp h).phase
      have overseen := overseen_beginTeardown (s := { s with channel := rest }) (t := t) cause phase
      rw [eq]
      exact ⟨overseen.trigger, overseen.tasks, overseen.events⟩
  | despair state queue halted eq =>
      rw [eq]
      exact overseen_beginTeardown _ ((stage_awaiting state).mp h).phase
  | join state halted eq =>
      rw [eq]
      exact overseen_joinNext ((stage_joining state).mp h).phase
  | abandon state eq =>
      rw [eq]
      have phase := ((stage_joining state).mp h).phase
      exact Overseen.of_abandon (overseen_joinNext phase)

/-! ## Courses -/

def begun (c : Setup) (w : World) (trigger : Trigger) : Session :=
  start c { traffic := { world := { w.forget with device := none } }, trigger := trigger }

def course (c : Setup) (w : World) (trigger : Trigger) (moves : List Move) : Session :=
  run c (begun c w trigger) moves

theorem run_append (c : Setup) (s : Session) (first second : List Move) :
    run c s (first ++ second) = run c (run c s first) second :=
  List.foldl_append ..

theorem course_append (c : Setup) (w : World) (trigger : Trigger) (first second : List Move) :
    course c w trigger (first ++ second) = run c (course c w trigger first) second :=
  run_append ..

/-- A session that has entered the handshake and not begun it. -/
def opened (w : World) (trigger : Trigger) : Session where
  traffic := { world := { w.forget with device := none, events := [.entered .handshaking] } }
  trigger := trigger
  phase := .handshaking

theorem begun_eq (c : Setup) (w : World) (trigger : Trigger) : begun c w trigger =
    ((opened w trigger).withWorld (Handshake.start c (opened w trigger).world).2).afterHandshake
      (Handshake.start c (opened w trigger).world).1 := by
  rw [begun, start, enter_eq_ok (by rfl)]
  rfl

theorem begun_cases (c : Setup) (w : World) (trigger : Trigger) :
    ∃ w' es, World.Relayed (opened w trigger).world w' ∧
      w'.events = (opened w trigger).world.events ++ es ∧ (∀ e ∈ es, ∀ d, e ≠ .received d) ∧
      ((∃ e, e.IsFailure ∧
          begun c w trigger = ((opened w trigger).withWorld w').conclude (.error e)) ∨
        ∃ h, begun c w trigger =
          { (opened w trigger).withWorld w' with coordinator := .handshaking h }) := by
  obtain ⟨relayed, ⟨es, hes, silent⟩, failures⟩ :=
    Handshake.start_spec c (opened w trigger).world
  refine ⟨_, es, relayed, hes, silent, ?_⟩
  rw [begun_eq]
  cases hstart : (Handshake.start c (opened w trigger).world).1 with
  | finished outcome =>
      obtain ⟨e, rfl, failure⟩ := failures outcome hstart
      exact .inl ⟨e, failure, rfl⟩
  | waiting deadline => exact .inr ⟨_, rfl⟩
  | stuck => exact .inr ⟨_, rfl⟩

theorem shaking_opened (w : World) (trigger : Trigger) : Shaking (opened w trigger) := by
  refine ⟨rfl, ?_, rfl, rfl, rfl, rfl, by simp [opened, world]⟩
  intro role
  cases role <;> rfl

theorem stage_begun (c : Setup) (w : World) (trigger : Trigger) :
    Stage c (begun c w trigger) := by
  have shaking := shaking_opened w trigger
  obtain ⟨w', es, relayed, hes, silent, ⟨e, failure, eq⟩ | ⟨h, eq⟩⟩ := begun_cases c w trigger
  · rw [eq]
    exact stage_fail shaking failure relayed
  · obtain ⟨device, log⟩ := shaking.of_relayed relayed
    rw [eq]
    refine (stage_handshaking rfl).mpr ⟨rfl, shaking.unborn, rfl, rfl, device, log, ?_⟩
    intro d hd
    change .received d ∈ w'.events at hd
    rw [hes, List.mem_append] at hd
    rcases hd with hd | hd
    · exact shaking.silent d hd
    · exact silent _ hd d rfl

theorem tasks_begun (c : Setup) (w : World) (trigger : Trigger) :
    (begun c w trigger).uplink = .unborn ∧ (begun c w trigger).downlink = .unborn ∧
      (begun c w trigger).listener = .unborn ∧ (begun c w trigger).trigger = trigger := by
  obtain ⟨w', es, -, -, -, ⟨e, -, eq⟩ | ⟨h, eq⟩⟩ := begun_cases c w trigger
  · rw [eq, conclude_error (by rfl)]
    exact ⟨rfl, rfl, rfl, rfl⟩
  · rw [eq]
    exact ⟨rfl, rfl, rfl, rfl⟩

theorem holds_begun (c : Setup) (w : World) (trigger : Trigger) :
    HoldsWhatItRead (begun c w trigger) := by
  intro p hp
  rw [(tasks_begun c w trigger).1] at hp
  cases hp

theorem overseen_begun (c : Setup) (w : World) (trigger : Trigger) :
    Overseen (opened w trigger) (begun c w trigger) := by
  obtain ⟨w', -, relayed, -, -, ended⟩ := begun_cases c w trigger
  obtain ⟨es, hes, traffic⟩ := relayed.events
  rcases ended with ⟨e, -, eq⟩ | ⟨h, eq⟩
  · rw [eq]
    exact overseen_conclude_error rfl hes fun e he => .inl (traffic e he)
  · obtain ⟨silent, closing⟩ := Event.plain_of_calls fun e he => .inl (traffic e he)
    rw [eq]
    exact ⟨rfl, .inl ⟨rfl, rfl, rfl⟩, es, hes, silent, closing⟩

inductive MoveStep (c : Setup) (s s' : Session) : Move → Prop
  | idle {m : Move} (inner : ∀ x, m ≠ .stimulus x) (same : s' = s) : MoveStep c s s' m
  | feel {x : Stimulus} (eq : s' = s.feel x) : MoveStep c s s' (.stimulus x)
  | task {role : Role} {obey : Bool} (step : TaskStep c role s s') (beside : Beside role s s')
      (unspent : ∀ taken, Unspent taken s → Unspent taken s') :
      MoveStep c s s' (.task role obey)
  | oversee (step : CoordinatorStep c s s') (overseen : Overseen s s') :
      MoveStep c s s' .coordinator

theorem move_cases (stage : Stage c s) (held : HoldsWhatItRead s) (m : Move) :
    MoveStep c s (s.move c m) m ∧ HoldsWhatItRead (s.move c m) := by
  cases m with
  | stimulus x =>
      obtain ⟨-, -, -, -, -, -, huplink, -, -, hworld⟩ := feel_frame x s
      obtain ⟨-, -, hevents⟩ := World.feel_spec x s.world
      refine ⟨.feel rfl, held.mono huplink ?_⟩
      rw [move, hworld, hevents]
      exact List.subset_append_left ..
  | task role obey =>
      rw [move]
      cases hstep : s.stepRole c role obey with
      | none => exact ⟨.idle (by simp) rfl, held⟩
      | some s' =>
          obtain ⟨step, beside, held', unspent⟩ := stepRole_cases held hstep
          exact ⟨.task step beside unspent, held'⟩
  | coordinator =>
      rw [move]
      cases hstep : s.stepCoordinator c with
      | none => exact ⟨.idle (by simp) rfl, held⟩
      | some s' =>
          have step := stepCoordinator_cases hstep
          have overseen := overseen_coordinator stage step
          refine ⟨.oversee step overseen, ?_⟩
          obtain ⟨es, hes, -⟩ := overseen.events
          rcases overseen.tasks with ⟨huplink, -⟩ | ⟨-, huplink, -⟩
          · exact held.mono huplink (by simp [hes])
          · intro p hp
            rw [Option.getD_some, huplink] at hp
            cases hp

theorem stage_move (stage : Stage c s) {m : Move} (step : MoveStep c s s' m) :
    Stage c s' := by
  cases step with
  | idle inner same =>
      rw [same]
      exact stage
  | feel eq =>
      rw [eq]
      exact stage.aside (aside_of_feel _ s)
  | task step beside unspent => exact stage.aside (aside_of_taskStep step beside)
  | oversee step overseen => exact stage_coordinator stage step

theorem run_induction {P : List Move → Session → Prop} (stage : Stage c s)
    (held : HoldsWhatItRead s) (start : P [] s)
    (step : ∀ moves m s s', Stage c s → MoveStep c s s' m → P moves s → P (moves ++ [m]) s')
    (moves : List Move) :
    P moves (run c s moves) ∧ Stage c (run c s moves) ∧ HoldsWhatItRead (run c s moves) := by
  induction moves using List.reverseRecOn with
  | nil => exact ⟨start, stage, held⟩
  | append_singleton moves m ih =>
      obtain ⟨holds, stage', held'⟩ := ih
      obtain ⟨hstep, held''⟩ := move_cases stage' held' m
      rw [run_append]
      exact ⟨step moves m _ _ stage' hstep holds, stage_move stage' hstep, held''⟩

theorem stage_course (c : Setup) (w : World) (trigger : Trigger) (moves : List Move) :
    Stage c (course c w trigger moves) :=
  (run_induction (P := fun _ _ => True) (stage_begun c w trigger) (holds_begun c w trigger)
    trivial (fun _ _ _ _ _ _ _ => trivial) moves).2.1

theorem holds_course (c : Setup) (w : World) (trigger : Trigger) (moves : List Move) :
    HoldsWhatItRead (course c w trigger moves) :=
  (run_induction (P := fun _ _ => True) (stage_begun c w trigger) (holds_begun c w trigger)
    trivial (fun _ _ _ _ _ _ _ => trivial) moves).2.2

theorem course_induction {P : List Move → Session → Prop} {w : World} {trigger : Trigger}
    (start : P [] (begun c w trigger))
    (step : ∀ moves m s s', Stage c s → MoveStep c s s' m → P moves s → P (moves ++ [m]) s')
    (moves : List Move) : P moves (course c w trigger moves) :=
  (run_induction (stage_begun c w trigger) (holds_begun c w trigger) start step moves).1

/-! ## Phases visited -/

def phases (s : Session) : List Phase :=
  .disconnected :: s.world.events.filterMap Event.entered?

def path : Coordinator → List Phase
  | .fresh => [.disconnected]
  | .handshaking _ => [.disconnected, .handshaking]
  | .awaiting _ => [.disconnected, .handshaking, .established]
  | .joining _ _ _ _ => [.disconnected, .handshaking, .established, .terminating]
  | .finished (.ok _) => [.disconnected, .handshaking, .established, .terminating, .closed]
  | .finished (.error _) => [.disconnected, .handshaking, .closed]

def phaseOf : Coordinator → Phase
  | .fresh => .disconnected
  | .handshaking _ => .handshaking
  | .awaiting _ => .established
  | .joining _ _ _ _ => .terminating
  | .finished _ => .closed

theorem phase_eq (stage : Stage c s) : s.phase = phaseOf s.coordinator := by
  cases state : s.coordinator with
  | fresh => simp [Stage, state] at stage
  | handshaking h => exact ((stage_handshaking state).mp stage).phase
  | awaiting t => exact ((stage_awaiting state).mp stage).phase
  | joining t cause role deadline => exact ((stage_joining state).mp stage).phase
  | finished outcome =>
      cases outcome with
      | error e => exact ((stage_finished_error state).mp stage).phase
      | ok report =>
          obtain ⟨t, -, closed⟩ := (stage_finished_ok state).mp stage
          exact closed.phase

theorem awaiting_of_established (stage : Stage c s) (phase : s.phase = .established) :
    ∃ t, s.coordinator = .awaiting t := by
  rw [phase_eq stage] at phase
  cases state : s.coordinator with
  | awaiting t => exact ⟨t, rfl⟩
  | fresh | handshaking h | joining t cause role deadline | finished outcome =>
      rw [state] at phase
      cases phase

theorem finished_of_closed (stage : Stage c s) (phase : s.phase = .closed) :
    ∃ outcome, s.coordinator = .finished outcome := by
  rw [phase_eq stage] at phase
  cases state : s.coordinator with
  | finished outcome => exact ⟨outcome, rfl⟩
  | fresh | handshaking h | awaiting t | joining t cause role deadline =>
      rw [state] at phase
      cases phase

theorem getLast?_path (coordinator : Coordinator) :
    (path coordinator).getLast? = some (phaseOf coordinator) := by
  cases coordinator with
  | fresh | handshaking h | awaiting t | joining t cause role deadline => rfl
  | finished outcome => cases outcome <;> rfl

private theorem entered?_closingLog (t : Tunnel) (abandoned : List Role) :
    (closingLog c t abandoned).filterMap Event.entered? =
      [.handshaking, .established, .terminating] := by
  have none : (abandoned.map Event.abandoned).filterMap Event.entered? = [] := by
    simp [List.filterMap_eq_nil_iff, Event.entered?]
  rw [closingLog, List.filterMap_append, none, List.append_nil]
  rfl

theorem phases_eq_path (stage : Stage c s) : s.phases = path s.coordinator := by
  rw [phases, ← filterMap_milestones fun e he => by
    cases e <;> simp_all [Event.entered?, Event.isMilestone, Event.isHostWork]]
  cases state : s.coordinator with
  | fresh => simp [Stage, state] at stage
  | handshaking h =>
      rw [((stage_handshaking state).mp stage).milestones]
      rfl
  | awaiting t =>
      rw [((stage_awaiting state).mp stage).milestones]
      rfl
  | joining t cause role deadline =>
      rw [((stage_joining state).mp stage).milestones, entered?_closingLog]
      rfl
  | finished outcome =>
      cases outcome with
      | error e =>
          obtain ⟨es, log, work, -⟩ := ((stage_finished_error state).mp stage).milestones
          have none : es.filterMap Event.entered? = [] := by
            rw [List.filterMap_eq_nil_iff]
            intro e he
            have := work e he
            cases e <;> simp_all [Event.entered?, Event.isHostWork]
          rw [log, List.cons_append, List.filterMap_cons, List.filterMap_append, none]
          rfl
      | ok report =>
          obtain ⟨t, -, closed⟩ := (stage_finished_ok state).mp stage
          obtain ⟨undoing, ⟨_, _, _, _, _, _, _, _, rfl⟩, log⟩ := closed.milestones
          rw [log, List.filterMap_append, entered?_closingLog]
          rfl

/-! ## A trial -/

namespace Trial

def key : PresharedKey := ⟨List.replicate 32 0, rfl⟩

def grant : Datagram :=
  [7, 0, 0, 0, 0, 0, 0, 0, 0, 0, 0, 0, 165, 208, 75, 4, 52, 3, 10, 97, 186, 108, 106, 115, 60, 4,
   192, 116, 196, 38, 115, 238, 147, 138, 18, 222, 110]

def setup : Setup where
  key := key
  peer := .ofIpv4 ⟨0xC0000201⟩ 4000
  device := {}
  timeout := 5000
  nonces := Nonce.ofNat

/-- The default gateway lies in the network of the granted address. -/
def world : World where
  routes := { table := ⟨some ⟨0x0A0000FE⟩, [(⟨0x01010101⟩, ⟨0x02020202⟩)]⟩ }

def opening : List Move := [.stimulus (.datagram grant), .coordinator]

/-- A packet goes out, and then sending fails while an interrupt comes in. -/
def ending : List Move :=
  [.stimulus (.packet [1, 2, 3]), .task .uplink false, .stimulus (.failSend "gone"),
   .task .uplink false, .task .uplink false, .stimulus (.request .interrupt),
   .task .listener true, .task .listener true, .coordinator, .task .listener true,
   .task .downlink true, .coordinator, .coordinator, .coordinator]

end Trial

end Session

end TunnelClient
