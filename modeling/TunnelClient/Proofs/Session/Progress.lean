import TunnelClient.Proofs.Relay.Work
import TunnelClient.Proofs.Session.Accounts

/-!
# Progress

Why a handshake is decided and an ending session ends.  Every step of a task or of the
coordinator uses up work that is left to do; when no step is possible the coordinator waits
for the reply or for a task, and that only until its deadline.
-/

namespace TunnelClient

def Listening.cost : Listening → Nat
  | fresh => 2
  | waiting => 1

def Worker.cost {σ : Type} (ofState : σ → Nat) : Worker σ → Nat
  | unborn | finished => 0
  | running state => ofState state + 1
  | reporting _ => 1

/-- A handshake has the cost of all that may follow it. -/
def Coordinator.cost : Coordinator → Nat
  | handshaking _ => 12
  | awaiting _ => 4
  | joining _ _ .uplink _ => 3
  | joining _ _ .downlink _ => 2
  | joining _ _ .listener _ => 1
  | fresh | finished _ => 0

namespace World

theorem load_congr {w w' : World} (unread : w'.outflow.unread = w.outflow.unread)
    (queued : w'.socket.inbound = w.socket.inbound) : w'.load = w.load := by
  rw [load, load, unread]
  exact congrArg (2 * w.outflow.unread.length + 2 * List.length ·) queued

private theorem unread_bringDown (w : World) : w.bringDown.outflow.unread = w.outflow.unread := by
  change w.bringDown.device.elim [] Device.inbound = w.device.elim [] Device.inbound
  rw [(bringDown_spec w).1]
  cases w.device <;> rfl

end World

namespace Handshake

variable {c : Setup} {w w' : World}

private theorem unread_setUp (peer : Ipv4) (a : TunnelAddress) (closed : w.device = none) :
    (setUp c peer a w).2.outflow.unread = [] := by
  cases hset : setUp c peer a w with
  | mk outcome w' =>
      change w'.device.elim [] Device.inbound = []
      cases outcome with
      | ok t =>
          obtain ⟨-, -, -, device, -⟩ := setUp_eq_ok hset
          rw [device]
          rfl
      | error e =>
          cases (collapse_of_setUp hset).2 with
          | uncreated device =>
              rw [device, closed]
              rfl
          | @unraised e w₁ device =>
              have same := World.unread_bringDown w₁
              change w₁.bringDown.device.elim [] Device.inbound =
                w₁.device.elim [] Device.inbound at same
              rw [same, device]
              rfl
          | @undirected e w₁ w₂ device socket routes events install =>
              have frame := World.rerouted_install peer a.gateway w₁
              have same := World.unread_bringDown w₂
              rw [install] at frame
              change w₂.bringDown.device.elim [] Device.inbound =
                w₂.device.elim [] Device.inbound at same
              rw [same, frame.device, device]
              rfl

theorem load_answer (reply : Datagram) (closed : w.device = none) :
    (answer c reply w).2.load = w.load := by
  rw [answer]
  cases peerIpv4 c with
  | error e => rfl
  | ok peer =>
      cases granted c.key reply with
      | error e => rfl
      | ok a =>
          have unread : w.outflow.unread = [] := by
            change w.device.elim [] Device.inbound = []
            rw [closed]
            rfl
          refine World.load_congr ?_ (congrArg Socket.inbound (worked_setUp c peer a w).socket)
          rw [unread]
          exact unread_setUp peer a closed

theorem load_step {h h' : Handshake} (closed : w.device = none)
    (hstep : step c h w = some (h', w')) : w'.load ≤ w.load := by
  cases h with
  | stuck | finished outcome => cases hstep
  | waiting deadline =>
      simp only [step] at hstep
      cases hreceive : w.receive? with
      | none =>
          simp only [hreceive] at hstep
          split at hstep
          · cases hstep
            exact Nat.le_refl _
          · cases hstep
      | some received =>
          obtain ⟨outcome, w₁⟩ := received
          have less := World.load_receive? hreceive
          have standing := (World.relayed_receive? hreceive).1.device
          simp only [hreceive] at hstep
          cases outcome with
          | error e =>
              cases hstep
              omega
          | ok reply =>
              cases hstep
              have closed₁ : w₁.device = none := by
                rw [closed, Option.map_none, Option.map_eq_none_iff] at standing
                exact standing
              rw [load_answer reply closed₁]
              omega

end Handshake

namespace Session

variable {c : Setup} {obey : Bool} {s s' : Session}

/-! ## One tunnel -/

def address? : Coordinator → Option TunnelAddress
  | .awaiting t | .joining t _ _ _ => some t.address
  | .finished (.ok report) => some report.address
  | .fresh | .handshaking _ | .finished (.error _) => none

private theorem address?_joinNext (phase : s.phase = .terminating) (t : Tunnel) (cause : Cause)
    (role : Role) : address? (s.joinNext t cause role).coordinator = some t.address := by
  cases role with
  | uplink | downlink => rfl
  | listener =>
      rw [joinNext, endTeardown_eq phase]
      rfl

theorem address?_coordinator {a : TunnelAddress} (stage : Stage c s)
    (step : CoordinatorStep c s s') (h : address? s.coordinator = some a) :
    address? s'.coordinator = some a := by
  cases step with
  | settle state =>
      rw [state] at h
      cases h
  | @receive t cause rest state queue eq =>
      rw [state] at h
      rw [eq, beginTeardown_eq (s := { s with channel := rest })
        ((stage_awaiting state).mp stage).phase]
      exact h
  | despair state queue halted eq =>
      rw [state] at h
      rw [eq, beginTeardown_eq ((stage_awaiting state).mp stage).phase]
      exact h
  | @join t cause role deadline state halted eq =>
      rw [state] at h
      rw [eq, address?_joinNext ((stage_joining state).mp stage).phase]
      exact h
  | @abandon t cause role deadline state eq =>
      rw [state] at h
      rw [eq, address?_joinNext (s := s.abandon role) ((stage_joining state).mp stage).phase]
      exact h

theorem address?_run {a : TunnelAddress} (stage : Stage c s) (held : HoldsWhatItRead s)
    (h : address? s.coordinator = some a) (more : List Move) :
    address? (run c s more).coordinator = some a := by
  refine (run_induction (P := fun _ s => address? s.coordinator = some a) stage held h ?_ more).1
  intro _ m s₁ s₂ stage₁ step h₁
  cases step with
  | idle inner same => rw [same, h₁]
  | @feel x eq => rw [eq, (feel_frame x s₁).1, h₁]
  | task step beside unspent => rw [beside.coordinator, h₁]
  | oversee step overseen => exact address?_coordinator stage₁ step h₁

/-! ## Work used up -/

/-- What is left to do until a session has ended. -/
def work (s : Session) : Nat :=
  s.coordinator.cost + s.uplink.cost Loop.cost + s.downlink.cost Loop.cost +
    s.listener.cost Listening.cost + s.world.load

def cost (s : Session) : Role → Nat
  | .uplink => s.uplink.cost Loop.cost
  | .downlink => s.downlink.cost Loop.cost
  | .listener => s.listener.cost Listening.cost

theorem work_eq (s : Session) : s.work =
    s.coordinator.cost + s.cost .uplink + s.cost .downlink + s.cost .listener + s.world.load :=
  rfl

theorem work_of_role (role : Role) (coordinator : s'.coordinator = s.coordinator)
    (others : ∀ r, r ≠ role → s'.cost r = s.cost r)
    (less : s'.cost role + s'.world.load < s.cost role + s.world.load) : s'.work < s.work := by
  rw [work_eq, work_eq, coordinator]
  cases role with
  | uplink =>
      rw [others .downlink (by decide), others .listener (by decide)]
      omega
  | downlink =>
      rw [others .uplink (by decide), others .listener (by decide)]
      omega
  | listener =>
      rw [others .uplink (by decide), others .downlink (by decide)]
      omega

private theorem cost_afterLoop (report : ClientError → Cause) (l : Loop) :
    (afterLoop report l).cost Loop.cost ≤ l.cost + 1 := by
  cases l with
  | waiting | holding p | stuck => exact Nat.le_refl _
  | ended e => cases e <;> simp [afterLoop, Worker.cost]

private theorem cost_post? {cause : Cause} (h : s.post? cause = some s') :
    s'.coordinator = s.coordinator ∧ s'.cost = s.cost ∧ s'.world.load = s.world.load := by
  obtain ⟨-, rfl⟩ := post?_eq_some h
  exact ⟨rfl, funext fun role => by cases role <;> rfl, rfl⟩

/-- A report that found room leaves nothing to do for the task that made it. -/
theorem work_of_report {s₁ : Session} {cause : Cause} (role : Role)
    (posted : s.post? cause = some s₁) (coordinator : s'.coordinator = s₁.coordinator)
    (others : ∀ r, r ≠ role → s'.cost r = s₁.cost r) (load : s'.world.load = s₁.world.load)
    (finished : s'.cost role = 0) (reporting : s.cost role = 1) : s'.work < s.work := by
  obtain ⟨coordinator₁, cost₁, load₁⟩ := cost_post? posted
  rw [cost₁] at others
  refine work_of_role role (coordinator.trans coordinator₁) others ?_
  rw [finished, reporting, load, load₁]
  omega

theorem work_stepUplink (h : s.stepUplink c obey = some s') : s'.work < s.work := by
  have others : ∀ (s : Session) (w : Worker Loop) (t : Traffic) (r : Role), r ≠ .uplink →
      cost { s with uplink := w, traffic := t } r = s.cost r := by
    intro s w t r other
    cases r with
    | uplink => exact absurd rfl other
    | downlink | listener => rfl
  rw [stepUplink] at h
  cases hw : s.uplink with
  | unborn | finished => simp [hw] at h
  | reporting cause =>
      simp only [hw, Option.map_eq_some_iff] at h
      obtain ⟨s₁, posted, rfl⟩ := h
      exact work_of_report .uplink posted rfl (others s₁ .finished s₁.traffic) rfl rfl
        (by rw [cost, hw]; rfl)
  | running l =>
      simp only [hw, Option.map_eq_some_iff] at h
      obtain ⟨⟨l', t'⟩, hstep, rfl⟩ := h
      have less := Relay.cost_uplinkStep hstep
      have after := cost_afterLoop .uplink l'
      refine work_of_role .uplink rfl (others s (afterLoop .uplink l') t') ?_
      change (afterLoop .uplink l').cost Loop.cost + t'.world.load < _
      rw [cost, hw]
      change _ < l.cost + 1 + s.traffic.world.load
      omega

theorem work_stepDownlink (h : s.stepDownlink c obey = some s') : s'.work < s.work := by
  have others : ∀ (s : Session) (w : Worker Loop) (t : Traffic) (r : Role), r ≠ .downlink →
      cost { s with downlink := w, traffic := t } r = s.cost r := by
    intro s w t r other
    cases r with
    | downlink => exact absurd rfl other
    | uplink | listener => rfl
  rw [stepDownlink] at h
  cases hw : s.downlink with
  | unborn | finished => simp [hw] at h
  | reporting cause =>
      simp only [hw, Option.map_eq_some_iff] at h
      obtain ⟨s₁, posted, rfl⟩ := h
      exact work_of_report .downlink posted rfl (others s₁ .finished s₁.traffic) rfl rfl
        (by rw [cost, hw]; rfl)
  | running l =>
      simp only [hw, Option.map_eq_some_iff] at h
      obtain ⟨⟨l', t'⟩, hstep, rfl⟩ := h
      have less := Relay.cost_downlinkStep hstep
      have after := cost_afterLoop .downlink l'
      refine work_of_role .downlink rfl (others s (afterLoop .downlink l') t') ?_
      change (afterLoop .downlink l').cost Loop.cost + t'.world.load < _
      rw [cost, hw]
      change _ < l.cost + 1 + s.traffic.world.load
      omega

theorem work_stepListener (h : s.stepListener obey = some s') : s'.work < s.work := by
  have others : ∀ (s : Session) (w : Worker Listening) (trigger : Trigger) (r : Role),
      r ≠ .listener → cost { s with listener := w, trigger := trigger } r = s.cost r := by
    intro s w trigger r other
    cases r with
    | listener => exact absurd rfl other
    | uplink | downlink => rfl
  have less : ∀ (w : Worker Listening) (trigger : Trigger),
      w.cost Listening.cost < s.listener.cost Listening.cost →
      work { s with listener := w, trigger := trigger } < s.work := by
    intro w trigger smaller
    refine work_of_role .listener rfl (others s w trigger) ?_
    exact Nat.add_lt_add_right smaller s.world.load
  rw [stepListener] at h
  cases hw : s.listener with
  | unborn | finished => simp [hw] at h
  | reporting cause =>
      simp only [hw, Option.map_eq_some_iff] at h
      obtain ⟨s₁, posted, rfl⟩ := h
      exact work_of_report .listener posted rfl (others s₁ .finished s₁.trigger) rfl rfl
        (by rw [cost, hw]; rfl)
  | running l =>
      rw [hw] at less
      cases l with
      | fresh =>
          simp only [hw] at h
          split at h
          · cases h
            exact less .finished s.trigger (by simp [Worker.cost, Listening.cost])
          · split at h
            · cases h
              exact less _ _ (by simp [Worker.cost, Listening.cost])
            · cases h
              exact less _ s.trigger (by simp [Worker.cost, Listening.cost])
      | waiting =>
          simp only [hw] at h
          split at h
          · split at h
            · cases h
              exact less .finished s.trigger (by simp [Worker.cost, Listening.cost])
            · cases h
              exact less _ s.trigger (by simp [Worker.cost, Listening.cost])
          · split at h
            · cases h
              exact less .finished s.trigger (by simp [Worker.cost, Listening.cost])
            · cases h

theorem work_stepRole {role : Role} (h : s.stepRole c role obey = some s') :
    s'.work < s.work := by
  cases role with
  | uplink => exact work_stepUplink h
  | downlink => exact work_stepDownlink h
  | listener => exact work_stepListener h

theorem work_of_coordinator (uplink : s'.uplink = s.uplink) (downlink : s'.downlink = s.downlink)
    (listener : s'.listener = s.listener) (load : s'.world.load = s.world.load)
    (less : s'.coordinator.cost < s.coordinator.cost) : s'.work < s.work := by
  rw [work, work, uplink, downlink, listener, load]
  omega

theorem load_endTeardown (phase : s.phase = .terminating) (t : Tunnel) (cause : Cause) :
    (s.endTeardown t cause).world.load = s.world.load := by
  obtain ⟨-, hsocket, -, -⟩ := World.bringDown_spec s.world
  obtain ⟨frame, -⟩ := World.restore_spec t.snapshot s.world.bringDown.closeSocket
  rw [endTeardown_eq phase]
  change World.load (Detour.restore World.router t.snapshot s.world.bringDown.closeSocket).2 = _
  apply World.load_congr
  · calc
      (Detour.restore World.router t.snapshot s.world.bringDown.closeSocket).2.outflow.unread
          = s.world.bringDown.closeSocket.outflow.unread :=
            congrArg (Option.elim · [] Device.inbound) frame.device
      _ = s.world.outflow.unread := World.unread_bringDown s.world
  · rw [frame.socket, ← hsocket]
    exact Socket.inbound_close s.world.bringDown.socket

theorem work_joinNext {t t' : Tunnel} {cause cause' : Cause} {role : Role} {deadline : Nat}
    (phase : s.phase = .terminating)
    (state : s.coordinator = .joining t cause role deadline) :
    (s.joinNext t' cause' role).work < s.work := by
  cases role with
  | uplink | downlink =>
      refine work_of_coordinator rfl rfl rfl rfl ?_
      rw [state]
      simp [joinNext, Coordinator.cost]
  | listener =>
      have load := load_endTeardown phase t' cause'
      rw [joinNext]
      refine work_of_coordinator ?_ ?_ ?_ load ?_
      · rw [endTeardown_eq phase]
        rfl
      · rw [endTeardown_eq phase]
        rfl
      · rw [endTeardown_eq phase]
        rfl
      · rw [endTeardown_eq phase, state]
        exact Nat.one_pos

theorem work_beginTeardown {t t' : Tunnel} {cause : Cause} (phase : s.phase = .established)
    (state : s.coordinator = .awaiting t) : (s.beginTeardown t' cause).work < s.work := by
  rw [beginTeardown_eq phase]
  refine work_of_coordinator rfl rfl rfl rfl ?_
  rw [state]
  simp [Coordinator.cost]

private theorem cost_of_unborn {σ : Type} {worker : Worker σ} (ofState : σ → Nat)
    (unborn : worker.sketch = .unborn) : worker.cost ofState = 0 := by
  cases worker with
  | unborn => rfl
  | running state | reporting cause | finished => cases unborn

private theorem cost_of_shaking (shaking : Shaking s) (role : Role) : s.cost role = 0 := by
  cases role with
  | uplink => exact cost_of_unborn Loop.cost (shaking.unborn .uplink)
  | downlink => exact cost_of_unborn Loop.cost (shaking.unborn .downlink)
  | listener => exact cost_of_unborn Listening.cost (shaking.unborn .listener)

theorem work_of_shaking {h : Handshake} (shaking : Shaking s)
    (state : s.coordinator = .handshaking h) : s.work = 12 + s.world.load := by
  rw [work_eq, state]
  simp only [cost_of_shaking shaking]
  rfl

theorem work_conclude {outcome : Except ClientError Tunnel} {w : World} (shaking : Shaking s)
    (less : w.load ≤ s.world.load) :
    ((s.withWorld w).conclude outcome).work < 12 + s.world.load := by
  cases outcome with
  | error e =>
      have load : (w.record (.entered .closed)).closeSocket.load = w.load :=
        World.load_congr rfl (Socket.inbound_close w.socket)
      rw [conclude_error (s := s.withWorld w) shaking.phase]
      change 0 + s.cost .uplink + s.cost .downlink + s.cost .listener +
        (w.record (.entered .closed)).closeSocket.load < _
      simp only [cost_of_shaking shaking, load]
      omega
  | ok t =>
      rw [conclude_ok (s := s.withWorld w) shaking.phase]
      change 4 + 2 + 2 + 3 + w.load < _
      omega

theorem work_settle {h : Handshake} (shaking : Shaking s)
    (state : s.coordinator = .handshaking h) (step : s.stepCoordinator c = some s') :
    s'.work < s.work := by
  simp only [stepCoordinator, state, Option.map_eq_some_iff] at step
  obtain ⟨⟨h', w⟩, hstep, rfl⟩ := step
  obtain ⟨outcome, rfl, -⟩ := Handshake.turn_of_step hstep
  rw [work_of_shaking shaking state]
  exact work_conclude shaking (Handshake.load_step shaking.device hstep)

theorem work_coordinator (stage : Stage c s) (h : s.stepCoordinator c = some s') :
    s'.work < s.work := by
  cases stepCoordinator_cases h with
  | settle state => exact work_settle ((stage_handshaking state).mp stage) state h
  | @receive t cause rest state queue eq =>
      rw [eq]
      exact work_beginTeardown (s := { s with channel := rest })
        ((stage_awaiting state).mp stage).phase state
  | despair state queue halted eq =>
      rw [eq]
      exact work_beginTeardown ((stage_awaiting state).mp stage).phase state
  | join state halted eq =>
      rw [eq]
      exact work_joinNext ((stage_joining state).mp stage).phase state
  | @abandon t cause role deadline state eq =>
      rw [eq]
      exact work_joinNext (s := s.abandon role) ((stage_joining state).mp stage).phase state

/-! ## Endings -/

/-- A cause to end the session was met, or the session was asked to end. -/
def Ending (s : Session) : Prop :=
  s.reports ≠ [] ∨ (∃ role cause, s.status role = .reporting cause) ∨ s.trigger.request? ≠ none

theorem Ending.of_reports {es : List Event} (events : s'.world.events = s.world.events ++ es)
    (h : s.reports ≠ []) : Ending s' := by
  left
  rw [reports_append events]
  simp [h]

private theorem ending_feel (x : Stimulus) (h : Ending s) : Ending (s.feel x) := by
  obtain ⟨-, -, -, -, -, -, -, -, -, hworld⟩ := feel_frame x s
  obtain ⟨-, -, hevents⟩ := World.feel_spec x s.world
  rw [← hworld] at hevents
  rcases h with reported | ⟨role, cause, ready⟩ | asked
  · exact .of_reports hevents reported
  · exact .inr (.inl ⟨role, cause, by rw [status_feel, ready]⟩)
  · refine .inr (.inr ?_)
    have gone : s.trigger.isGone = true := by
      cases hs : s.trigger.state with
      | armed => simp [Trigger.request?, hs] at asked
      | fired request | dropped => simp [Trigger.isGone, hs]
    cases x with
    | request r => simpa [feel, Trigger.fire, gone] using asked
    | dropTrigger => simpa [feel, Trigger.drop, gone] using asked
    | _ => exact asked

private theorem ending_task {role : Role} (step : TaskStep c role s s') (beside : Beside role s s')
    (h : Ending s) : Ending s' := by
  obtain ⟨es, hes, -, -⟩ := step.events
  rcases h with reported | ⟨r, cause, ready⟩ | asked
  · exact .of_reports hes reported
  · by_cases hr : r = role
    · rw [hr] at ready
      cases step with
      | work before | meet before | stop before =>
          rw [before] at ready
          cases ready
      | @report cause before after room world channel =>
          have events : s'.world.events = s.world.events ++ [.reported cause] := by
            rw [world]
            rfl
          left
          rw [reports_append events]
          simp [Event.report?]
    · exact .inr (.inl ⟨r, cause, by rw [beside.others hr, ready]⟩)
  · exact .inr (.inr (by rw [beside.request]; exact asked))

theorem ending_oversee (overseen : Overseen s s') (h : Ending s) : Ending s' := by
  obtain ⟨es, hes, -, -⟩ := overseen.events
  rcases h with reported | ⟨role, cause, ready⟩ | asked
  · exact .of_reports hes reported
  · rcases overseen.status role with same | ⟨unborn, -⟩
    · exact .inr (.inl ⟨role, cause, same.trans ready⟩)
    · rw [unborn] at ready
      cases ready
  · exact .inr (.inr (by rw [overseen.trigger]; exact asked))

theorem ending_move {m : Move} (step : MoveStep c s s' m) (h : Ending s) : Ending s' := by
  cases step with
  | idle inner same =>
      rw [same]
      exact h
  | feel eq =>
      rw [eq]
      exact ending_feel _ h
  | task step beside unspent => exact ending_task step beside h
  | oversee step overseen => exact ending_oversee overseen h

/-! ## Steps that are possible -/

def Steps (c : Setup) (s s' : Session) : Prop :=
  s.stepCoordinator c = some s' ∨ ∃ role obey, s.stepRole c role obey = some s'

private theorem steps_listener {l : Listening} (running : s.listener = .running l)
    (asked : s.trigger.request? ≠ none) : ∃ s', Steps c s s' := by
  have possible : ∃ s', s.stepListener false = some s' := by
    rw [stepListener, running]
    cases l with
    | fresh => cases s.trigger.take <;> simp
    | waiting =>
        cases hr : s.trigger.request? with
        | none => exact absurd hr asked
        | some r => simp
  obtain ⟨s', hstep⟩ := possible
  exact ⟨s', .inr ⟨.listener, false, hstep⟩⟩

private theorem steps_of_reports {t : Tunnel} {trigger : Trigger} {moves : List Move}
    (accounts : Accounts c trigger moves s) (state : s.coordinator = .awaiting t)
    (reported : s.reports ≠ []) : ∃ s', Steps c s s' := by
  have queue := accounts.queue
  rw [state] at queue
  cases hq : s.channel with
  | nil =>
      rw [hq] at queue
      exact absurd queue reported
  | cons cause rest =>
      exact ⟨_, .inl (by simp only [stepCoordinator, state, hq]; rfl)⟩

private theorem steps_of_ending {t : Tunnel} {trigger : Trigger} {moves : List Move}
    (accounts : Accounts c trigger moves s) (stage : Stage c s)
    (state : s.coordinator = .awaiting t) (h : Ending s) : ∃ s', Steps c s s' := by
  have carrying := (stage_awaiting state).mp stage
  have ready : ∀ role cause, s.status role = .reporting cause → ∃ s', Steps c s s' := by
    intro role cause hrole
    obtain ⟨s', hstep, -⟩ := stepRole_of_reporting false hrole (accounts.room hrole)
    exact ⟨s', .inr ⟨role, false, hstep⟩⟩
  rcases h with reported | ⟨role, cause, hrole⟩ | asked
  · exact steps_of_reports accounts state reported
  · exact ready role cause hrole
  · cases hl : s.listener with
    | unborn => exact absurd (congrArg Worker.sketch hl) (carrying.born .listener)
    | running l => exact steps_listener hl asked
    | reporting cause => exact ready .listener cause (congrArg Worker.sketch hl)
    | finished =>
        have one := accounts.owed carrying.told .listener (congrArg Worker.sketch hl)
        refine steps_of_reports accounts state ?_
        intro none
        rw [none] at one
        cases one

/-- Once the deadline is over, the coordinator goes on. -/
private theorem steps_of_deadline {t : Tunnel} {cause : Cause} {role : Role} {deadline : Nat}
    (state : s.coordinator = .joining t cause role deadline) (past : deadline ≤ s.world.clock) :
    ∃ s', Steps c s s' := by
  by_cases halted : s.isOver role = true
  · exact ⟨s.joinNext t cause role, .inl (by simp only [stepCoordinator, state, halted, if_true])⟩
  · refine ⟨(s.abandon role).joinNext t cause role, .inl ?_⟩
    simp only [stepCoordinator, state]
    rw [if_neg halted, if_pos past]

/-! ## Inevitable ends -/

/-- Whichever steps are taken, and with time to pass when none is possible, a session comes to a
state of a kind. -/
inductive Leads (c : Setup) (Q : Session → Prop) : Session → Prop
  | here {s : Session} (h : Q s) : Leads c Q s
  | next {s : Session} (possible : ∃ s', Steps c s s') (all : ∀ s', Steps c s s' → Leads c Q s') :
      Leads c Q s
  | later {s : Session} (milliseconds : Nat) (none : ∀ s', ¬Steps c s s')
      (h : Leads c Q (s.feel (.elapse milliseconds))) : Leads c Q s

theorem Leads.mono {P Q : Session → Prop} (h : Leads c P s) (imp : ∀ s, P s → Q s) :
    Leads c Q s := by
  induction h with
  | here h => exact .here (imp _ h)
  | next possible _ ih => exact .next possible ih
  | later milliseconds none _ ih => exact .later milliseconds none ih

/-- What a session does by itself, and the passing of time. -/
def Move.isInner : Move → Bool
  | .stimulus (.elapse _) => true
  | .stimulus _ => false
  | .task _ _ | .coordinator => true

theorem move_of_steps (h : Steps c s s') : ∃ m, Move.isInner m = true ∧ s.move c m = s' := by
  rcases h with hstep | ⟨role, obey, hstep⟩
  · exact ⟨.coordinator, rfl, by rw [move, hstep]; rfl⟩
  · exact ⟨.task role obey, rfl, by rw [move, hstep]; rfl⟩

theorem work_steps (stage : Stage c s) (h : Steps c s s') : s'.work < s.work := by
  rcases h with hstep | ⟨role, obey, hstep⟩
  · exact work_coordinator stage hstep
  · exact work_stepRole hstep

theorem Leads.reached {Q : Session → Prop} (h : Leads c Q s) :
    Leads c (fun s' => Q s' ∧ ∃ more, (∀ m ∈ more, Move.isInner m = true) ∧ s' = run c s more)
      s := by
  induction h with
  | here h => exact .here ⟨h, [], by simp, rfl⟩
  | next possible _ ih =>
      refine .next possible fun s' step => (ih s' step).mono ?_
      rintro s₁ ⟨h, more, inner, rfl⟩
      obtain ⟨m, hm, rfl⟩ := move_of_steps step
      exact ⟨h, m :: more, List.forall_mem_cons.mpr ⟨hm, inner⟩, rfl⟩
  | later milliseconds none _ ih =>
      refine .later milliseconds none (ih.mono ?_)
      rintro s₁ ⟨h, more, inner, rfl⟩
      exact ⟨h, .stimulus (.elapse milliseconds) :: more,
        List.forall_mem_cons.mpr ⟨rfl, inner⟩, rfl⟩

/-! ## The handshake -/

private theorem stepRole_of_unborn {role : Role} (unborn : s.status role = .unborn) :
    s.stepRole c role obey = none := by
  cases role with
  | uplink =>
      cases hw : s.uplink with
      | unborn => rw [stepRole, stepUplink, hw]
      | running l | reporting cause | finished => simp [status, hw, Worker.sketch] at unborn
  | downlink =>
      cases hw : s.downlink with
      | unborn => rw [stepRole, stepDownlink, hw]
      | running l | reporting cause | finished => simp [status, hw, Worker.sketch] at unborn
  | listener =>
      cases hw : s.listener with
      | unborn => rw [stepRole, stepListener, hw]
      | running l | reporting cause | finished => simp [status, hw, Worker.sketch] at unborn

/-- The handshake has led to a tunnel, or has failed. -/
def Decided (s : Session) : Prop :=
  s.phase = .established ∨ ∃ e, s.coordinator = .finished (.error e)

theorem decided_of_steps {h : Handshake} (shaking : Shaking s)
    (state : s.coordinator = .handshaking h) (step : Steps c s s') : Decided s' := by
  rcases step with step | ⟨role, obey, step⟩
  · simp only [stepCoordinator, state, Option.map_eq_some_iff] at step
    obtain ⟨⟨h', w⟩, hstep, rfl⟩ := step
    obtain ⟨outcome, rfl, -⟩ := Handshake.turn_of_step hstep
    cases outcome with
    | error e =>
        refine .inr ⟨e, ?_⟩
        rw [afterHandshake, conclude_error (s := s.withWorld w) shaking.phase]
        rfl
    | ok t =>
        refine .inl ?_
        rw [afterHandshake, conclude_ok (s := s.withWorld w) shaking.phase]
        rfl
  · rw [stepRole_of_unborn (shaking.unborn role)] at step
    cases step

private theorem steps_of_timeout {deadline : Nat}
    (state : s.coordinator = .handshaking (.waiting deadline)) (past : deadline ≤ s.world.clock) :
    ∃ s', Steps c s s' := by
  have possible : ∃ next, (Handshake.waiting deadline).step c s.world = some next := by
    rw [Handshake.step]
    cases s.world.receive? with
    | none => exact ⟨_, if_pos past⟩
    | some received =>
        obtain ⟨outcome, w⟩ := received
        cases outcome with
        | ok reply | error e => exact ⟨_, rfl⟩
  obtain ⟨next, hstep⟩ := possible
  exact ⟨_, .inl (by rw [stepCoordinator, state]; exact congrArg (Option.map _) hstep)⟩

theorem leads_of_handshaking {deadline : Nat} (shaking : Shaking s)
    (state : s.coordinator = .handshaking (.waiting deadline)) : Leads c Decided s := by
  by_cases possible : ∃ s', Steps c s s'
  · exact .next possible fun s' step => .here (decided_of_steps shaking state step)
  · refine .later (deadline - s.world.clock) (fun s' step => possible ⟨s', step⟩) ?_
    have shaking' := shaking.aside (aside_of_feel (.elapse (deadline - s.world.clock)) s)
    have past : deadline ≤ s.world.clock + (deadline - s.world.clock) := by omega
    exact .next (steps_of_timeout state past)
      fun s' step => .here (decided_of_steps shaking' state step)

/-! ## The end -/

/-- A session that has returned a report, some inner moves after another state. -/
def Returned (c : Setup) (s s' : Session) : Prop :=
  ∃ more, (∀ m ∈ more, Move.isInner m = true) ∧ s' = run c s more ∧
    ∃ report, s'.coordinator = .finished (.ok report)

/-- A state from which an end is inevitable. -/
structure OnTheWay (c : Setup) (s : Session) : Prop where
  established : ∃ a, address? s.coordinator = some a
  ending : Ending s
  stage : Stage c s
  held : HoldsWhatItRead s
  accounts : ∃ trigger moves, Accounts c trigger moves s

theorem OnTheWay.move (h : OnTheWay c s) (m : Move) : OnTheWay c (s.move c m) := by
  obtain ⟨step, held⟩ := move_cases h.stage h.held m
  obtain ⟨a, established⟩ := h.established
  obtain ⟨trigger, moves, accounts⟩ := h.accounts
  exact ⟨⟨a, address?_run h.stage h.held established [m]⟩, ending_move step h.ending,
    stage_move h.stage step, held, trigger, moves ++ [m], accounts_move h.stage step accounts⟩

theorem OnTheWay.leads_next {Q : Session → Prop} (h : OnTheWay c s)
    (possible : ∃ s', Steps c s s')
    (smaller : ∀ s', OnTheWay c s' → s'.work < s.work → Leads c Q s') : Leads c Q s := by
  refine .next possible ?_
  intro s' hstep
  have less := work_steps h.stage hstep
  obtain ⟨m, -, rfl⟩ := move_of_steps hstep
  exact smaller _ (h.move m) less

theorem OnTheWay.leads (h : OnTheWay c s) :
    Leads c (fun s' => ∃ report, s'.coordinator = .finished (.ok report)) s := by
  induction hn : s.work using Nat.strongRecOn generalizing s with
  | ind n ih =>
      have smaller : ∀ s', OnTheWay c s' → s'.work < s.work →
          Leads c (fun s' => ∃ report, s'.coordinator = .finished (.ok report)) s' := by
        intro s' h' less
        exact ih s'.work (hn ▸ less) h' rfl
      obtain ⟨a, established⟩ := h.established
      cases state : s.coordinator with
      | fresh | handshaking hs =>
          rw [state] at established
          cases established
      | awaiting t =>
          obtain ⟨trigger, moves, accounts⟩ := h.accounts
          exact h.leads_next (steps_of_ending accounts h.stage state h.ending) smaller
      | joining t cause role deadline =>
          by_cases possible : ∃ s', Steps c s s'
          · exact h.leads_next possible smaller
          · -- Nobody can go on, so time passes up to the deadline.
            refine .later (deadline - s.world.clock) (fun s' hs' => possible ⟨s', hs'⟩) ?_
            have later : OnTheWay c (s.feel (.elapse (deadline - s.world.clock))) :=
              h.move (.stimulus (.elapse (deadline - s.world.clock)))
            have past : deadline ≤ s.world.clock + (deadline - s.world.clock) := by omega
            have state' : (s.feel (.elapse (deadline - s.world.clock))).coordinator =
                .joining t cause role deadline := state
            exact later.leads_next (steps_of_deadline state' past) smaller
      | finished outcome =>
          cases outcome with
          | error e =>
              rw [state] at established
              cases established
          | ok report => exact .here ⟨report, state⟩

/-- Once a cause to end it was met, an established session returns its report. -/
theorem leads_of_ending {a : TunnelAddress} {w : World} {trigger : Trigger} {moves : List Move}
    (established : address? (course c w trigger moves).coordinator = some a)
    (ending : Ending (course c w trigger moves)) :
    Leads c (Returned c (course c w trigger moves)) (course c w trigger moves) := by
  have way : OnTheWay c (course c w trigger moves) :=
    ⟨⟨a, established⟩, ending, stage_course c w trigger moves, holds_course c w trigger moves,
      trigger, moves, accounts_course c w trigger moves⟩
  refine way.leads.reached.mono ?_
  rintro s ⟨finished, more, inner, reached⟩
  exact ⟨more, inner, reached, finished⟩

/-- A cause that was received is one that was met. -/
theorem Accounts.ending {trigger : Trigger} {moves : List Move} {cause : Cause}
    (h : Accounts c trigger moves s) (received : s.coordinator.received? = some cause) :
    Ending s := by
  left
  rw [h.queue, received]
  simp

private theorem address?_of_received {cause : Cause}
    (received : s.coordinator.received? = some cause) : ∃ a, address? s.coordinator = some a := by
  cases state : s.coordinator with
  | fresh | handshaking h | awaiting t =>
      rw [state] at received
      cases received
  | joining t cause role deadline => exact ⟨t.address, rfl⟩
  | finished outcome =>
      cases outcome with
      | ok report => exact ⟨report.address, rfl⟩
      | error e =>
          rw [state] at received
          cases received

/-- A session that has received a cause returns its report. -/
theorem leads_of_received {cause : Cause} {w : World} {trigger : Trigger} {moves : List Move}
    (received : (course c w trigger moves).coordinator.received? = some cause) :
    Leads c (Returned c (course c w trigger moves)) (course c w trigger moves) := by
  obtain ⟨a, established⟩ := address?_of_received received
  exact leads_of_ending established ((accounts_course c w trigger moves).ending received)

end Session

end TunnelClient
