import TunnelClient.Proofs.Session.Steps

/-!
# Stages of a session

The stages of a session.  In each state of the coordinator the phase, the tasks, the
device and the milestones so far are known; no move, from inside or outside, leads
out of these stages.
-/

namespace TunnelClient

namespace Session

/-! ## Stages -/

def roles : List Role := [.uplink, .downlink, .listener]

def earlier : Role → List Role
  | .uplink => []
  | .downlink => [.uplink]
  | .listener => [.uplink, .downlink]

def milestones (s : Session) : List Event := s.world.events.filter Event.isMilestone

/-- The first datagram that was received grants the address, and no work was done before it. -/
def Granted (c : Setup) (a : TunnelAddress) (events : List Event) : Prop :=
  ∃ reply before after, events = before ++ .received reply :: after ∧
    Handshake.granted c.key reply = .ok a ∧
    ∀ e ∈ before, e.isHostWork = false ∧ ∀ d, e ≠ .received d

/-- What a teardown does once the tasks are out of the way. -/
def Undoing (snapshot : RouteSnapshot) (es : List Event) : Prop :=
  ∃ down shut b₁ b₂ b₃ cleared restored removed,
    es = [.lowered down, .closed shut,
      .route (.change b₁ .clearDefault cleared),
      .route (.change b₂ (.setDefault snapshot.former) restored),
      .route (.change b₃ (.clearHost snapshot.peer) removed),
      .entered .closed]

def openingLog (c : Setup) (t : Tunnel) : List Event :=
  .entered .handshaking :: t.log c ++ [.entered .established]

def closingLog (c : Setup) (t : Tunnel) (abandoned : List Role) : List Event :=
  openingLog c t ++ [.entered .terminating, .broadcast] ++ abandoned.map .abandoned

structure Shaking (s : Session) : Prop where
  phase : s.phase = .handshaking
  unborn : ∀ role, s.status role = .unborn
  told : s.told = []
  abandoned : s.abandoned = []
  device : s.world.device = none
  milestones : s.milestones = [.entered .handshaking]
  silent : ∀ d, .received d ∉ s.world.events

structure Tunnelled (c : Setup) (t : Tunnel) (s : Session) : Prop where
  granted : Granted c t.address s.world.events
  peer : c.peer.address = .v4 t.snapshot.peer
  gateway : t.snapshot.tunnel = t.address.gateway
  subscribers : s.subscribers = roles
  born : ∀ role, s.status role ≠ .unborn

structure Carrying (c : Setup) (t : Tunnel) (s : Session) : Prop extends Tunnelled c t s where
  phase : s.phase = .established
  told : s.told = []
  abandoned : s.abandoned = []
  device : s.world.device.map Device.standing =
    some (c.device.withAddress t.address.inner, true, 0)
  milestones : s.milestones = openingLog c t

structure Joining (c : Setup) (t : Tunnel) (role : Role) (s : Session) : Prop
    extends Tunnelled c t s where
  phase : s.phase = .terminating
  told : s.told = roles
  joined : ∀ r ∈ earlier role, s.status r = .finished ∨ r ∈ s.abandoned
  device : s.world.device.map Device.standing =
    some (c.device.withAddress t.address.inner, true, 0)
  milestones : s.milestones = closingLog c t s.abandoned

structure Closed (c : Setup) (t : Tunnel) (s : Session) : Prop extends Tunnelled c t s where
  phase : s.phase = .closed
  told : s.told = roles
  joined : ∀ r, s.status r = .finished ∨ r ∈ s.abandoned
  device : s.world.device.map Device.standing =
    some (c.device.withAddress t.address.inner, false, 1)
  inactive : s.world.socket.active = false
  events : ∃ before undoing after, s.world.events = before ++ undoing ++ after ∧
    before.filter Event.isMilestone = closingLog c t s.abandoned ∧
    Undoing t.snapshot undoing ∧
    (∀ e ∈ after, e.isMilestone = false) ∧
    (s.abandoned = [] → ∀ e ∈ after, e.isTraffic = false)

structure Failed (c : Setup) (e : ClientError) (s : Session) : Prop where
  phase : s.phase = .closed
  failure : e.IsFailure
  unborn : ∀ role, s.status role = .unborn
  told : s.told = []
  inactive : s.world.socket.active = false
  device : s.world.device = none ∨ ∃ settings,
    s.world.device.map Device.standing = some (settings, false, 1)
  milestones : ∃ es, s.milestones = .entered .handshaking :: es ++ [.entered .closed] ∧
    (∀ e ∈ es, e.isHostWork = true) ∧
    (es = [] ∧ s.world.device = none ∨ ∃ a, Granted c a s.world.events)

/-- What is known of a session, by the state of its coordinator. -/
def Stage (c : Setup) (s : Session) : Prop :=
  match s.coordinator with
  | .fresh => False
  | .handshaking _ => Shaking s
  | .awaiting t => Carrying c t s
  | .joining t _ role _ => Joining c t role s
  | .finished (.ok report) => ∃ t, t.address = report.address ∧ Closed c t s
  | .finished (.error e) => Failed c e s

variable {c : Setup} {s s' : Session}

theorem stage_handshaking {h : Handshake} (state : s.coordinator = .handshaking h) :
    Stage c s ↔ Shaking s := by
  rw [Stage, state]

theorem stage_awaiting {t : Tunnel} (state : s.coordinator = .awaiting t) :
    Stage c s ↔ Carrying c t s := by
  rw [Stage, state]

theorem stage_joining {t : Tunnel} {cause : Cause} {role : Role} {deadline : Nat}
    (state : s.coordinator = .joining t cause role deadline) :
    Stage c s ↔ Joining c t role s := by
  rw [Stage, state]

theorem stage_finished_ok {report : Report} (state : s.coordinator = .finished (.ok report)) :
    Stage c s ↔ ∃ t, t.address = report.address ∧ Closed c t s := by
  rw [Stage, state]

theorem stage_finished_error {e : ClientError}
    (state : s.coordinator = .finished (.error e)) : Stage c s ↔ Failed c e s := by
  rw [Stage, state]

/-! ## Milestones -/

theorem filter_milestones_append {events es : List Event}
    (h : ∀ e ∈ es, e.isMilestone = false) :
    (events ++ es).filter Event.isMilestone = events.filter Event.isMilestone := by
  have none : es.filter Event.isMilestone = [] := by
    rw [List.filter_eq_nil_iff]
    intro e he
    simp [h e he]
  rw [List.filter_append, none, List.append_nil]

theorem countP_milestones {p : Event → Bool} (h : ∀ e, p e = true → e.isMilestone = true)
    (s : Session) : s.milestones.countP p = s.world.events.countP p := by
  rw [milestones, List.countP_filter]
  congr 1
  funext e
  cases hp : p e with
  | false => rfl
  | true => rw [h e hp, Bool.and_self]

theorem filterMap_milestones {α : Type} {f : Event → Option α}
    (h : ∀ e, e.isMilestone = false → f e = none) (s : Session) :
    s.milestones.filterMap f = s.world.events.filterMap f := by
  rw [milestones, List.filterMap_filter]
  congr 1
  funext e
  cases hm : e.isMilestone with
  | false => rw [h e hm]; rfl
  | true => rfl

theorem Closed.milestones {t : Tunnel} (h : Closed c t s) :
    ∃ undoing, Undoing t.snapshot undoing ∧
      s.milestones = closingLog c t s.abandoned ++ undoing.filter Event.isMilestone := by
  obtain ⟨before, undoing, after, hevents, hlog, hundoing, quiet, -⟩ := h.events
  refine ⟨undoing, hundoing, ?_⟩
  rw [Session.milestones, hevents, filter_milestones_append quiet, List.filter_append, hlog]

def hostWork (s : Session) : List Event := s.world.events.filter Event.isHostWork

theorem hostWork_eq (s : Session) : s.hostWork = s.milestones.filter Event.isHostWork := by
  rw [hostWork, milestones, List.filter_filter]
  congr 1
  funext e
  cases e <;> rfl

/-! ## Moves beside the coordinator -/

/-- What tasks and the world around do to a session. -/
structure Aside (s s' : Session) : Prop where
  coordinator : s'.coordinator = s.coordinator
  phase : s'.phase = s.phase
  subscribers : s'.subscribers = s.subscribers
  told : s'.told = s.told
  abandoned : s'.abandoned = s.abandoned
  unborn : ∀ role, s'.status role = .unborn ↔ s.status role = .unborn
  finished : ∀ role, s.status role = .finished → s'.status role = .finished
  device : s'.world.device.map Device.standing = s.world.device.map Device.standing
  active : s'.world.socket.active = true → s.world.socket.active = true
  events : ∃ es, s'.world.events = s.world.events ++ es ∧
    (∀ e ∈ es, e.isMilestone = false) ∧
    ((∀ role, s.status role = .unborn ∨ s.status role = .finished) →
      ∀ e ∈ es, e.isTraffic = false)

theorem Granted.append {a : TunnelAddress} {events : List Event} (h : Granted c a events)
    (es : List Event) : Granted c a (events ++ es) := by
  obtain ⟨reply, before, after, rfl, grant, clean⟩ := h
  exact ⟨reply, before, after ++ es, by simp, grant, clean⟩

theorem Tunnelled.aside {t : Tunnel} (h : Tunnelled c t s) (beside : Aside s s') :
    Tunnelled c t s' := by
  obtain ⟨es, hes, -, -⟩ := beside.events
  refine ⟨?_, h.peer, h.gateway, beside.subscribers.trans h.subscribers, ?_⟩
  · rw [hes]
    exact h.granted.append es
  · intro role hrole
    exact h.born role ((beside.unborn role).mp hrole)

private theorem milestones_aside (beside : Aside s s') : s'.milestones = s.milestones := by
  obtain ⟨es, hes, quiet, -⟩ := beside.events
  rw [milestones, hes, filter_milestones_append quiet]
  rfl

theorem hostWork_aside (beside : Aside s s') : s'.hostWork = s.hostWork := by
  rw [hostWork_eq, hostWork_eq, milestones_aside beside]

private theorem inactive_aside (beside : Aside s s') (h : s.world.socket.active = false) :
    s'.world.socket.active = false := by
  cases ha : s'.world.socket.active with
  | false => rfl
  | true =>
      rw [beside.active ha] at h
      cases h

private theorem device_none_aside (beside : Aside s s') (h : s.world.device = none) :
    s'.world.device = none := by
  have standing := beside.device
  rw [h] at standing
  simpa using standing

theorem Shaking.aside (h : Shaking s) (beside : Aside s s') : Shaking s' := by
  obtain ⟨es, hes, -, idle⟩ := beside.events
  refine ⟨beside.phase.trans h.phase, fun role => (beside.unborn role).mpr (h.unborn role),
    beside.told.trans h.told, beside.abandoned.trans h.abandoned,
    device_none_aside beside h.device, (milestones_aside beside).trans h.milestones, ?_⟩
  intro d hd
  rw [hes, List.mem_append] at hd
  rcases hd with hd | hd
  · exact h.silent d hd
  · have quiet := idle (fun role => .inl (h.unborn role)) _ hd
    cases quiet

theorem Carrying.aside {t : Tunnel} (h : Carrying c t s) (beside : Aside s s') :
    Carrying c t s' :=
  ⟨h.toTunnelled.aside beside, beside.phase.trans h.phase, beside.told.trans h.told,
    beside.abandoned.trans h.abandoned, beside.device.trans h.device,
    (milestones_aside beside).trans h.milestones⟩

theorem Joining.aside {t : Tunnel} {role : Role} (h : Joining c t role s)
    (beside : Aside s s') : Joining c t role s' := by
  refine ⟨h.toTunnelled.aside beside, beside.phase.trans h.phase, beside.told.trans h.told, ?_,
    beside.device.trans h.device, ?_⟩
  · intro r hr
    rw [beside.abandoned]
    exact (h.joined r hr).imp_left (beside.finished r)
  · rw [milestones_aside beside, beside.abandoned]
    exact h.milestones

theorem Closed.aside {t : Tunnel} (h : Closed c t s) (beside : Aside s s') : Closed c t s' := by
  obtain ⟨es, hes, quiet, idle⟩ := beside.events
  obtain ⟨before, undoing, after, hevents, hlog, hundoing, hafter, still⟩ := h.events
  refine ⟨h.toTunnelled.aside beside, beside.phase.trans h.phase, beside.told.trans h.told, ?_,
    beside.device.trans h.device, inactive_aside beside h.inactive,
    before, undoing, after ++ es, ?_, ?_, hundoing, ?_, ?_⟩
  · intro r
    rw [beside.abandoned]
    exact (h.joined r).imp_left (beside.finished r)
  · rw [hes, hevents, List.append_assoc]
  · rw [beside.abandoned]
    exact hlog
  · intro e he
    rcases List.mem_append.mp he with he | he
    · exact hafter e he
    · exact quiet e he
  · intro none e he
    rw [beside.abandoned] at none
    have halted : ∀ role, s.status role = .unborn ∨ s.status role = .finished := by
      intro role
      rcases h.joined role with finished | given
      · exact .inr finished
      · simp [none] at given
    rcases List.mem_append.mp he with he | he
    · exact still none e he
    · exact idle halted e he

theorem Failed.aside {e : ClientError} (h : Failed c e s) (beside : Aside s s') :
    Failed c e s' := by
  obtain ⟨es, hes, -, -⟩ := beside.events
  obtain ⟨work, hlog, hwork, reason⟩ := h.milestones
  refine ⟨beside.phase.trans h.phase, h.failure,
    fun role => (beside.unborn role).mpr (h.unborn role), beside.told.trans h.told,
    inactive_aside beside h.inactive, ?_, work, (milestones_aside beside).trans hlog, hwork, ?_⟩
  · rcases h.device with none | ⟨settings, down⟩
    · exact .inl (device_none_aside beside none)
    · exact .inr ⟨settings, beside.device.trans down⟩
  · rcases reason with ⟨nothing, none⟩ | ⟨a, granted⟩
    · exact .inl ⟨nothing, device_none_aside beside none⟩
    · rw [hes]
      exact .inr ⟨a, granted.append es⟩

theorem Stage.aside (h : Stage c s) (beside : Aside s s') : Stage c s' := by
  rw [Stage, beside.coordinator]
  rw [Stage] at h
  split at h
  · exact h
  · exact Shaking.aside h beside
  · exact Carrying.aside h beside
  · exact Joining.aside h beside
  · obtain ⟨t, haddress, closed⟩ := h
    exact ⟨t, haddress, closed.aside beside⟩
  · exact Failed.aside h beside

/-! ## Tasks and the world around -/

theorem aside_of_taskStep {role : Role} (h : TaskStep c role s s') (beside : Beside role s s') :
    Aside s s' := by
  obtain ⟨es, hes, quiet, -⟩ := h.events
  have lively : s.status role ≠ .unborn ∧ s.status role ≠ .finished := by
    cases h with
    | work before | meet before | stop before | report before => simp [before]
  have awake : s'.status role ≠ .unborn := by
    cases h with
    | work _ after | meet _ after | stop _ after | report _ after => simp [after]
  have still : s'.world.device.map Device.standing = s.world.device.map Device.standing ∧
      s'.world.socket.active = s.world.socket.active := by
    cases h with
    | work _ _ relayed _ | meet _ _ _ _ relayed _ => exact ⟨relayed.device, relayed.active⟩
    | stop _ _ _ world _ | report _ _ _ world _ =>
        rw [world]
        exact ⟨rfl, rfl⟩
  refine ⟨beside.coordinator, beside.phase, beside.subscribers, beside.told, beside.abandoned,
    ?_, ?_, still.1, fun h => still.2 ▸ h, es, hes, quiet, ?_⟩
  · intro r
    by_cases hr : r = role
    · rw [hr]
      exact ⟨fun h => absurd h awake, fun h => absurd h lively.1⟩
    · rw [beside.others hr]
  · intro r hover
    by_cases hr : r = role
    · rw [hr] at hover
      exact absurd hover lively.2
    · rw [beside.others hr, hover]
  · intro halted
    rcases halted role with h | h
    · exact absurd h lively.1
    · exact absurd h lively.2

theorem feel_frame (x : Stimulus) (s : Session) :
    (s.feel x).coordinator = s.coordinator ∧ (s.feel x).phase = s.phase ∧
      (s.feel x).subscribers = s.subscribers ∧ (s.feel x).told = s.told ∧
      (s.feel x).abandoned = s.abandoned ∧ (s.feel x).channel = s.channel ∧
      (s.feel x).uplink = s.uplink ∧ (s.feel x).downlink = s.downlink ∧
      (s.feel x).listener = s.listener ∧ (s.feel x).world = s.world.feel x := by
  cases x <;> exact ⟨rfl, rfl, rfl, rfl, rfl, rfl, rfl, rfl, rfl, rfl⟩

theorem status_feel (x : Stimulus) (role : Role) (s : Session) :
    (s.feel x).status role = s.status role := by
  obtain ⟨-, -, -, -, -, -, huplink, hdownlink, hlistener, -⟩ := feel_frame x s
  cases role <;> simp only [status, huplink, hdownlink, hlistener]

theorem aside_of_feel (x : Stimulus) (s : Session) : Aside s (s.feel x) := by
  obtain ⟨hcoordinator, hphase, hsubscribers, htold, habandoned, -, -, -, -, hworld⟩ :=
    feel_frame x s
  obtain ⟨hdevice, hactive, hevents⟩ := World.feel_spec x s.world
  refine ⟨hcoordinator, hphase, hsubscribers, htold, habandoned, ?_, ?_, ?_, ?_, _,
    by rw [hworld, hevents], ?_, ?_⟩
  · intro role
    rw [status_feel]
  · intro role halted
    rw [status_feel, halted]
  · rw [hworld, hdevice]
  · rw [hworld]
    exact hactive
  · split <;> simp [Event.isMilestone, Event.isHostWork]
  · intro _
    split <;> simp [Event.isTraffic]

/-! ## Moves of the coordinator -/

private theorem stage_conclude_error {e : ClientError} (phase : s.phase = .handshaking)
    (failure : e.IsFailure) (unborn : ∀ role, s.status role = .unborn) (told : s.told = [])
    (device : s.world.device = none ∨ ∃ settings,
      s.world.device.map Device.standing = some (settings, false, 1))
    {es : List Event} (log : s.milestones = .entered .handshaking :: es)
    (work : ∀ e ∈ es, e.isHostWork = true)
    (reason : es = [] ∧ s.world.device = none ∨ ∃ a, Granted c a s.world.events) :
    Stage c (s.conclude (.error e)) := by
  rw [conclude_error phase]
  obtain ⟨hactive, hdevice, -, outcome, hevents⟩ :=
    World.closeSocket_spec (s.world.record (Event.entered .closed))
  have events : (s.world.record (Event.entered .closed)).closeSocket.events =
      s.world.events ++ [.entered .closed, .closed outcome] := by
    rw [hevents]
    simp [World.record]
  refine Failed.mk rfl failure unborn told hactive ?_ ⟨es, ?_, work, ?_⟩
  · exact device
  · change (s.world.record (Event.entered .closed)).closeSocket.events.filter Event.isMilestone = _
    rw [milestones] at log
    rw [events, List.filter_append, log]
    rfl
  · rcases reason with ⟨nothing, none⟩ | ⟨a, granted⟩
    · exact .inl ⟨nothing, none⟩
    · refine .inr ⟨a, ?_⟩
      change Granted c a (s.world.record (Event.entered .closed)).closeSocket.events
      rw [events]
      exact granted.append _

theorem hostWork_conclude_error {e : ClientError} {w : World} (phase : s.phase = .handshaking) :
    ((s.withWorld w).conclude (.error e)).hostWork = w.events.filter Event.isHostWork := by
  obtain ⟨-, -, -, outcome, events⟩ := World.closeSocket_spec (w.record (.entered .closed))
  rw [conclude_error (s := s.withWorld w) phase, hostWork]
  change (w.record (.entered .closed)).closeSocket.events.filter Event.isHostWork = _
  rw [events, World.record, List.filter_append, List.filter_append]
  exact (List.append_nil _).trans (List.append_nil _)

private theorem carrying_conclude_ok {t : Tunnel} (phase : s.phase = .handshaking)
    (told : s.told = [])
    (abandoned : s.abandoned = []) (granted : Granted c t.address s.world.events)
    (peer : c.peer.address = .v4 t.snapshot.peer)
    (gateway : t.snapshot.tunnel = t.address.gateway)
    (device : s.world.device.map Device.standing =
      some (c.device.withAddress t.address.inner, true, 0))
    (log : s.milestones = .entered .handshaking :: t.log c) :
    Carrying c t (s.conclude (.ok t)) := by
  rw [conclude_ok phase]
  refine ⟨⟨granted.append _, peer, gateway, rfl, ?_⟩, rfl, told, abandoned, device, ?_⟩
  · intro role
    cases role <;> simp [status, spawn, record, withWorld, Worker.sketch]
  · change (s.world.events ++ [Event.entered .established]).filter Event.isMilestone = _
    rw [milestones] at log
    rw [List.filter_append, log]
    rfl

theorem Shaking.idle (h : Shaking s) : ∀ e ∈ s.world.events, e.isHostWork = false := by
  refine Event.idle_of_milestones fun e he => ?_
  change e ∈ s.milestones at he
  rw [h.milestones, List.mem_singleton] at he
  rw [he]
  rfl

theorem Shaking.granted {a : TunnelAddress} {reply : Datagram} (h : Shaking s)
    (grant : Handshake.granted c.key reply = .ok a) :
    Granted c a (s.world.events ++ [.received reply]) := by
  refine ⟨reply, s.world.events, [], rfl, grant, ?_⟩
  intro e he
  refine ⟨h.idle e he, ?_⟩
  rintro d rfl
  exact h.silent d he

theorem Shaking.hostWork (h : Shaking s) : s.hostWork = [] := by
  rw [hostWork_eq, h.milestones]
  rfl

theorem filter_hostWork_of_relayed {w w' : World} (relayed : World.Relayed w w') :
    w'.events.filter Event.isHostWork = w.events.filter Event.isHostWork := by
  obtain ⟨es, events, traffic⟩ := relayed.events
  have none : es.filter Event.isHostWork = [] := by
    rw [List.filter_eq_nil_iff]
    intro e he
    rw [Event.isHostWork_of_isTraffic (traffic e he)]
    exact Bool.false_ne_true
  rw [events, List.filter_append, none, List.append_nil]

theorem Shaking.of_relayed {w : World} (h : Shaking s) (relayed : World.Relayed s.world w) :
    w.device = none ∧ w.events.filter Event.isMilestone = [.entered .handshaking] := by
  constructor
  · have standing := relayed.device
    rw [h.device] at standing
    simpa using standing
  · obtain ⟨es, hes, traffic⟩ := relayed.events
    rw [hes, filter_milestones_append fun e he => Event.isMilestone_of_isTraffic (traffic e he)]
    exact h.milestones

private theorem filter_milestones_work {es : List Event} (work : ∀ e ∈ es, e.isHostWork = true) :
    es.filter Event.isMilestone = es := by
  rw [List.filter_eq_self]
  exact fun e he => Event.isMilestone_of_isHostWork (work e he)

theorem stage_fail {e : ClientError} {w : World} (shaking : Shaking s) (failure : e.IsFailure)
    (relayed : World.Relayed s.world w) : Stage c ((s.withWorld w).conclude (.error e)) := by
  obtain ⟨device, log⟩ := shaking.of_relayed relayed
  exact stage_conclude_error shaking.phase failure shaking.unborn shaking.told (.inl device) log
    (by simp) (.inl ⟨rfl, device⟩)

private theorem stage_undo {e : ClientError} {reply : Datagram} {a : TunnelAddress} {w₁ w : World}
    (shaking : Shaking s) (relayed : World.Relayed s.world w₁)
    (events : w₁.events = s.world.events ++ [.received reply])
    (grant : Handshake.granted c.key reply = .ok a) (failure : e.IsFailure)
    (worked : World.Worked w₁ w) (device : w.device = w₁.device ∨
      w.device.map Device.standing = some (c.device.withAddress a.inner, false, 1)) :
    Stage c ((s.withWorld w).conclude (.error e)) := by
  obtain ⟨none, log⟩ := shaking.of_relayed relayed
  obtain ⟨es, hes, work⟩ := worked.events
  have log' : w.events.filter Event.isMilestone = .entered .handshaking :: es := by
    rw [hes, List.filter_append, log, filter_milestones_work work]
    rfl
  have granted : Granted c a w.events := by
    rw [hes, events]
    exact (shaking.granted grant).append es
  refine stage_conclude_error shaking.phase failure shaking.unborn shaking.told ?_ log' work
    (.inr ⟨a, granted⟩)
  rcases device with same | down
  · exact .inl (same.trans none)
  · exact .inr ⟨_, down⟩

private theorem stage_settle {outcome : Except ClientError Tunnel} {w : World} (shaking : Shaking s)
    (turn : Handshake.Turn c s.world outcome w) : Stage c ((s.withWorld w).conclude outcome) := by
  cases turn with
  | fail failure relayed => exact stage_fail shaking failure relayed
  | undo relayed events grant failure worked device =>
      exact stage_undo shaking relayed events grant failure worked device
  | @accept reply t w₁ _ relayed events grant peer gateway former fresh device log =>
      have granted : Granted c t.address w.events := by
        rw [log, events]
        exact (shaking.granted grant).append _
      have milestones : w.events.filter Event.isMilestone = .entered .handshaking :: t.log c := by
        rw [log, List.filter_append, (shaking.of_relayed relayed).2,
          filter_milestones_work fun e he => Tunnel.isHostWork_of_mem_log he]
        rfl
      have state : ((s.withWorld w).conclude (.ok t)).coordinator = .awaiting t := by
        rw [conclude_ok (s := s.withWorld w) shaking.phase]
        rfl
      exact (stage_awaiting state).mpr (carrying_conclude_ok (s := s.withWorld w) shaking.phase
        shaking.told shaking.abandoned granted peer gateway device milestones)

private theorem stage_beginTeardown {t : Tunnel} (cause : Cause) (carrying : Carrying c t s) :
    Stage c (s.beginTeardown t cause) := by
  have granted := carrying.granted
  have log := carrying.milestones
  rw [milestones] at log
  rw [beginTeardown_eq carrying.phase]
  refine (stage_joining rfl).mpr
    ⟨⟨?_, carrying.peer, carrying.gateway, carrying.subscribers, carrying.born⟩, rfl,
      carrying.subscribers, by simp [earlier], carrying.device, ?_⟩
  · exact (granted.append _).append _
  · change ((s.world.events ++ [Event.entered .terminating]) ++ [Event.broadcast]).filter
      Event.isMilestone = closingLog c t s.abandoned
    rw [closingLog, carrying.abandoned, List.filter_append, List.filter_append, log]
    rfl

private theorem stage_endTeardown {t : Tunnel} {cause : Cause} (joining : Joining c t .listener s)
    (halted : ∀ role, s.status role = .finished ∨ role ∈ s.abandoned) :
    Stage c (s.endTeardown t cause) := by
  have granted := joining.granted
  obtain ⟨hdevice, -, -, down, hdown⟩ := World.bringDown_spec s.world
  obtain ⟨hactive, hdevice', -, shut, hshut⟩ := World.closeSocket_spec s.world.bringDown
  obtain ⟨frame, b₁, b₂, b₃, cleared, restored, removed, hrestore⟩ :=
    World.restore_spec t.snapshot s.world.bringDown.closeSocket
  rw [endTeardown_eq joining.phase]
  generalize Detour.restore World.router t.snapshot s.world.bringDown.closeSocket = undone at *
  rw [hshut, hdown] at hrestore
  refine (stage_finished_ok rfl).mpr ⟨t, rfl,
    ⟨?_, joining.peer, joining.gateway, joining.subscribers, joining.born⟩, rfl, joining.told,
    halted, ?_, ?_, s.world.events,
    [.lowered down, .closed shut, .route (.change b₁ .clearDefault cleared),
      .route (.change b₂ (.setDefault t.snapshot.former) restored),
      .route (.change b₃ (.clearHost t.snapshot.peer) removed), .entered .closed], [], ?_,
    joining.milestones, ⟨_, _, _, _, _, _, _, _, rfl⟩, by simp, by simp⟩
  · change Granted c t.address (undone.2.events ++ [Event.entered .closed])
    rw [hrestore]
    exact (((granted.append _).append _).append _).append _
  · change undone.2.device.map Device.standing = _
    have standing := joining.device
    rw [frame.device, hdevice', hdevice]
    cases hd : s.world.device with
    | none => simp [hd] at standing
    | some device =>
        simp only [hd, Option.map_some, Option.some.injEq, Device.standing, Prod.mk.injEq]
          at standing
        simp [Device.standing, Device.bringDown, standing]
  · change undone.2.socket.active = false
    rw [frame.socket, hactive]
  · change undone.2.events ++ [Event.entered .closed] = _
    rw [hrestore]
    simp

theorem Joining.abandon {t : Tunnel} {role : Role} (joining : Joining c t role s) :
    Joining c t role (s.abandon role) := by
  have granted := joining.granted
  have log := joining.milestones
  rw [Session.milestones] at log
  refine ⟨⟨granted.append _, joining.peer, joining.gateway, joining.subscribers, ?_⟩,
    joining.phase, joining.told, ?_, joining.device, ?_⟩
  · intro r
    cases r with
    | uplink => exact joining.born .uplink
    | downlink => exact joining.born .downlink
    | listener => exact joining.born .listener
  · intro r hr
    rcases joining.joined r hr with finished | given
    · refine .inl ?_
      cases r with
      | uplink | downlink | listener => exact finished
    · exact .inr (List.mem_append_left _ given)
  · change (s.world.events ++ [Event.abandoned role]).filter Event.isMilestone =
      closingLog c t (s.abandoned ++ [role])
    rw [List.filter_append, log, closingLog, closingLog, List.map_append, ← List.append_assoc]
    rfl

private theorem stage_joinNext {t : Tunnel} {cause : Cause} {role : Role}
    (joining : Joining c t role s) (halted : s.status role = .finished ∨ role ∈ s.abandoned) :
    Stage c (s.joinNext t cause role) := by
  cases role with
  | uplink =>
      refine (stage_joining rfl).mpr ⟨⟨joining.granted, joining.peer, joining.gateway,
        joining.subscribers, joining.born⟩, joining.phase, joining.told, ?_, joining.device,
        joining.milestones⟩
      intro r hr
      rw [List.mem_singleton.mp hr]
      exact halted
  | downlink =>
      refine (stage_joining rfl).mpr ⟨⟨joining.granted, joining.peer, joining.gateway,
        joining.subscribers, joining.born⟩, joining.phase, joining.told, ?_, joining.device,
        joining.milestones⟩
      intro r hr
      have before := joining.joined .uplink (by simp [earlier])
      rcases List.mem_pair.mp hr with rfl | rfl
      · exact before
      · exact halted
  | listener =>
      refine stage_endTeardown joining ?_
      intro r
      cases r with
      | uplink => exact joining.joined .uplink (by simp [earlier])
      | downlink => exact joining.joined .downlink (by simp [earlier])
      | listener => exact halted

theorem stage_coordinator (h : Stage c s) (step : CoordinatorStep c s s') : Stage c s' := by
  cases step with
  | settle state turn eq =>
      rw [eq]
      exact stage_settle ((stage_handshaking state).mp h) turn
  | receive state queue eq =>
      rw [eq]
      have carrying := (stage_awaiting state).mp h
      exact stage_beginTeardown _ ⟨⟨carrying.granted, carrying.peer, carrying.gateway,
        carrying.subscribers, carrying.born⟩, carrying.phase, carrying.told, carrying.abandoned,
        carrying.device, carrying.milestones⟩
  | despair state queue halted eq =>
      rw [eq]
      exact stage_beginTeardown _ ((stage_awaiting state).mp h)
  | join state halted eq =>
      rw [eq]
      exact stage_joinNext ((stage_joining state).mp h) (.inl halted)
  | abandon state eq =>
      rw [eq]
      have joining := ((stage_joining state).mp h).abandon
      refine stage_joinNext joining (.inr ?_)
      exact List.mem_append_right _ (List.mem_singleton_self _)

end Session

end TunnelClient
