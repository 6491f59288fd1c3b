import TunnelClient.Proofs.Session.Course

/-!
# Accounts of reports

Each task reports at most once, a cause of its own that was met, so the channel always has
room.  The coordinator receives what the channel holds, oldest first.
-/

namespace TunnelClient

/-! ## Reports -/

def Coordinator.received? : Coordinator → Option Cause
  | joining _ cause _ _ => some cause
  | finished (.ok report) => some report.cause
  | _ => none

def tally (role : Role) (causes : List Cause) : Nat :=
  causes.countP fun cause => cause.role? = some role

theorem tally_append (role : Role) (first second : List Cause) :
    tally role (first ++ second) = tally role first + tally role second :=
  List.countP_append

private theorem tally_singleton {role : Role} {cause : Cause} (own : cause.role? = some role)
    (other : Role) : tally other [cause] = if role = other then 1 else 0 := by
  simp [tally, List.countP_singleton, own]

theorem length_eq_tally {causes : List Cause}
    (own : ∀ cause ∈ causes, ∃ role, cause.role? = some role) :
    causes.length = tally .uplink causes + tally .downlink causes + tally .listener causes := by
  induction causes with
  | nil => rfl
  | cons cause rest ih =>
      have tail := ih fun cause h => own cause (List.mem_cons_of_mem _ h)
      obtain ⟨role, hrole⟩ := own cause List.mem_cons_self
      simp only [tally, List.countP_cons, List.length_cons, hrole] at tail ⊢
      cases role <;> simp <;> omega

namespace Trigger

variable {t : Trigger} {r : TerminateRequest}

@[simp] theorem taken_fire (asked : TerminateRequest) (t : Trigger) :
    (t.fire asked).taken = t.taken := by
  rw [fire]
  split <;> rfl

@[simp] theorem taken_drop (t : Trigger) : t.drop.taken = t.taken := by
  rw [drop]
  split <;> rfl

private theorem request?_fire {asked : TerminateRequest} (h : (t.fire asked).request? = some r) :
    t.request? = some r ∨ r = asked := by
  rw [fire] at h
  split at h
  · exact .inl h
  · cases h
    exact .inr rfl

private theorem request?_drop (h : t.drop.request? = some r) : t.request? = some r := by
  rw [drop] at h
  split at h
  · exact h
  · cases h

end Trigger

namespace Session

def reports (s : Session) : List Cause := s.world.events.filterMap Event.report?

/-- The requests that were made before the session or in its course. -/
def Asked (trigger : Trigger) (moves : List Move) (r : TerminateRequest) : Prop :=
  trigger.request? = some r ∨ .stimulus (.request r) ∈ moves

/-! ## Accounts -/

/-- The teardown began after a report, and the first report was its cause. -/
def Heralded (cause : Cause) (events : List Event) : Prop :=
  ∃ before after, events = before ++ .entered .terminating :: .broadcast :: after ∧
    (before.filterMap Event.report?).head? = some cause

/-- The accounts between the tasks, the channel and the coordinator. -/
structure Accounts (c : Setup) (trigger : Trigger) (moves : List Move) (s : Session) : Prop where
  queue : s.reports = s.coordinator.received?.toList ++ s.channel
  unreported : ∀ role, s.status role ≠ .finished → tally role s.reports = 0
  once : ∀ role, tally role s.reports ≤ 1
  owed : s.told = [] → ∀ role, s.status role = .finished → tally role s.reports = 1
  own : ∀ cause ∈ s.reports, ∃ role, cause.role? = some role
  met : ∀ cause ∈ s.reports,
    cause.Met c s.world.events (Asked trigger moves) (trigger.taken = true)
  ready : ∀ role cause, s.status role = .reporting cause → cause.role? = some role ∧
    cause.Met c s.world.events (Asked trigger moves) (trigger.taken = true)
  asked : ∀ r, s.trigger.request? = some r → Asked trigger moves r
  unspent : Unspent trigger.taken s
  heralded : ∀ cause, s.coordinator.received? = some cause → Heralded cause s.world.events

variable {c : Setup} {trigger : Trigger} {moves : List Move} {s s' : Session}

theorem Asked.append {r : TerminateRequest} (h : Asked trigger moves r) (more : List Move) :
    Asked trigger (moves ++ more) r :=
  h.imp_right (List.mem_append_left more)

theorem Heralded.append {cause : Cause} {events : List Event} (h : Heralded cause events)
    (es : List Event) : Heralded cause (events ++ es) := by
  obtain ⟨before, after, rfl, first⟩ := h
  exact ⟨before, after ++ es, by simp, first⟩

theorem reports_append {es : List Event} (h : s'.world.events = s.world.events ++ es) :
    s'.reports = s.reports ++ es.filterMap Event.report? := by
  rw [reports, h, List.filterMap_append]
  rfl

private theorem met_later {m : Move} {cause : Cause} {es : List Event}
    (events : s'.world.events = s.world.events ++ es)
    (met : cause.Met c s.world.events (Asked trigger moves) (trigger.taken = true)) :
    cause.Met c s'.world.events (Asked trigger (moves ++ [m])) (trigger.taken = true) :=
  met.mono (by simp [events]) (fun _ asked => asked.append [m]) id

/-- The accounts still balance after a step of a task, if all that it reports is its own, and it
ends with one report unless it was told to stop. -/
theorem Accounts.of_task (h : Accounts c trigger moves s) {m : Move} {role : Role}
    {es : List Event} {causes : List Cause} (beside : Beside role s s')
    (unspent : ∀ taken, Unspent taken s → Unspent taken s') (busy : s.status role ≠ .finished)
    (events : s'.world.events = s.world.events ++ es)
    (new : es.filterMap Event.report? = causes) (channel : s'.channel = s.channel ++ causes)
    (few : tally role causes ≤ 1) (last : s'.status role ≠ .finished → causes = [])
    (owed : s.told = [] → s'.status role = .finished → tally role causes = 1)
    (own : ∀ cause, cause ∈ causes ∨ s'.status role = .reporting cause →
      cause.role? = some role ∧
      cause.Met c s'.world.events (Asked trigger (moves ++ [m])) (trigger.taken = true)) :
    Accounts c trigger (moves ++ [m]) s' := by
  have more : s'.reports = s.reports ++ causes := by
    rw [reports_append events, new]
  have fresh := h.unreported role busy
  have others : ∀ r, r ≠ role → tally r causes = 0 := by
    intro r hr
    rw [tally, List.countP_eq_zero]
    intro cause hcause
    simp [(own cause (.inl hcause)).1, hr.symm]
  refine ⟨?_, ?_, ?_, ?_, ?_, ?_, ?_, ?_, unspent _ h.unspent, ?_⟩
  · rw [more, beside.coordinator, channel, h.queue, List.append_assoc]
  · intro r hr
    rw [more, tally_append]
    by_cases hrole : r = role
    · rw [hrole] at hr ⊢
      rw [fresh, last hr]
      rfl
    · rw [beside.others hrole] at hr
      rw [h.unreported r hr, others r hrole]
  · intro r
    rw [more, tally_append]
    by_cases hrole : r = role
    · rw [hrole]
      omega
    · have := h.once r
      have := others r hrole
      omega
  · intro told r hr
    rw [beside.told] at told
    rw [more, tally_append]
    by_cases hrole : r = role
    · rw [hrole] at hr ⊢
      rw [fresh, owed told hr]
    · rw [beside.others hrole] at hr
      rw [h.owed told r hr, others r hrole]
  · intro cause hcause
    rw [more] at hcause
    rcases List.mem_append.mp hcause with hcause | hcause
    · exact h.own cause hcause
    · exact ⟨role, (own cause (.inl hcause)).1⟩
  · intro cause hcause
    rw [more] at hcause
    rcases List.mem_append.mp hcause with hcause | hcause
    · exact met_later events (h.met cause hcause)
    · exact (own cause (.inl hcause)).2
  · intro r cause hr
    by_cases hrole : r = role
    · rw [hrole] at hr ⊢
      exact own cause (.inr hr)
    · rw [beside.others hrole] at hr
      obtain ⟨own', met⟩ := h.ready r cause hr
      exact ⟨own', met_later events met⟩
  · intro r hr
    rw [beside.request] at hr
    exact (h.asked r hr).append [m]
  · intro cause hcause
    rw [beside.coordinator] at hcause
    rw [events]
    exact (h.heralded cause hcause).append es

private theorem accounts_task (h : Accounts c trigger moves s) {m : Move} {role : Role}
    (step : TaskStep c role s s') (beside : Beside role s s')
    (unspent : ∀ taken, Unspent taken s → Unspent taken s') :
    Accounts c trigger (moves ++ [m]) s' := by
  cases step with
  | work before after relayed channel =>
      obtain ⟨es, hes, traffic⟩ := relayed.events
      have silent := (Event.plain_of_calls fun e he => .inl (traffic e he)).1
      refine h.of_task beside unspent (by simp [before]) hes silent ?_ (Nat.zero_le 1)
        (fun _ => rfl) (by simp [after]) (by simp [after])
      rw [channel, List.append_nil]
  | meet before after own met relayed channel =>
      obtain ⟨es, hes, traffic⟩ := relayed.events
      have silent := (Event.plain_of_calls fun e he => .inl (traffic e he)).1
      refine h.of_task beside unspent (by simp [before]) hes silent ?_ (Nat.zero_le 1)
        (fun _ => rfl) (by simp [after]) ?_
      · rw [channel, List.append_nil]
      · intro cause hcause
        rw [after] at hcause
        rcases hcause with hcause | hcause
        · cases hcause
        · cases hcause
          refine ⟨own, met.mono (fun e he => he) ?_ ?_⟩
          · intro r hr
            exact (h.asked r hr).append [m]
          · intro spent
            rw [← h.unspent (.inr spent.1)]
            exact spent.2
  | stop before after obeyed world channel =>
      have events : s'.world.events = s.world.events ++ [] := by
        rw [world, List.append_nil]
      have silent : ([] : List Event).filterMap Event.report? = [] := rfl
      refine h.of_task beside unspent (by simp [before]) events silent ?_ (Nat.zero_le 1)
        (fun _ => rfl) ?_ (by simp [after])
      · rw [channel, List.append_nil]
      · intro told
        simp [told] at obeyed
  | @report cause before after room world channel =>
      obtain ⟨own, met⟩ := h.ready role cause before
      have events : s'.world.events = s.world.events ++ [.reported cause] := by
        rw [world]
        rfl
      have one : tally role [cause] = 1 := by
        rw [tally_singleton own, if_pos rfl]
      refine h.of_task beside unspent (by simp [before]) events rfl channel (Nat.le_of_eq one)
        (fun running => absurd after running) (fun _ _ => one) ?_
      intro cause' hcause
      rw [after] at hcause
      rcases hcause with hcause | hcause
      · rw [List.mem_singleton.mp hcause]
        exact ⟨own, met_later events met⟩
      · cases hcause

private theorem accounts_feel (h : Accounts c trigger moves s) (x : Stimulus) :
    Accounts c trigger (moves ++ [.stimulus x]) (s.feel x) := by
  obtain ⟨hcoordinator, -, -, htold, -, hchannel, -, -, hlistener, hworld⟩ := feel_frame x s
  obtain ⟨-, -, hevents⟩ := World.feel_spec x s.world
  have events : (s.feel x).world.events =
      s.world.events ++ (if x = .close then [.closed s.world.socket.close.1] else []) := by
    rw [hworld, hevents]
  have same : (s.feel x).reports = s.reports := by
    rw [reports_append events]
    split <;> simp [Event.report?]
  have taken : (s.feel x).trigger.taken = s.trigger.taken := by
    cases x <;> simp [feel, withWorld]
  refine ⟨?_, ?_, ?_, ?_, ?_, ?_, ?_, ?_, ?_, ?_⟩
  · rw [same, hcoordinator, hchannel]
    exact h.queue
  · intro role hrole
    rw [status_feel] at hrole
    rw [same]
    exact h.unreported role hrole
  · rw [same]
    exact h.once
  · intro told role hrole
    rw [htold] at told
    rw [status_feel] at hrole
    rw [same]
    exact h.owed told role hrole
  · rw [same]
    exact h.own
  · rw [same]
    intro cause hcause
    exact met_later events (h.met cause hcause)
  · intro role cause hrole
    rw [status_feel] at hrole
    obtain ⟨own, met⟩ := h.ready role cause hrole
    exact ⟨own, met_later events met⟩
  · intro r hr
    cases x with
    | request asked =>
        rcases Trigger.request?_fire hr with hr | rfl
        · exact (h.asked r hr).append _
        · exact .inr (by simp)
    | dropTrigger => exact (h.asked r (Trigger.request?_drop hr)).append _
    | _ => exact (h.asked r hr).append _
  · rw [Unspent, hlistener, taken]
    exact h.unspent
  · intro cause hcause
    rw [hcoordinator] at hcause
    rw [events]
    exact (h.heralded cause hcause).append _

/-! ## The coordinator's side -/

private theorem received_conclude (phase : s.phase = .handshaking)
    (outcome : Except ClientError Tunnel) : (s.conclude outcome).coordinator.received? = none ∧
      (s.conclude outcome).channel = s.channel ∧ (s.conclude outcome).told = s.told := by
  cases outcome with
  | error e =>
      rw [conclude_error phase]
      exact ⟨rfl, rfl, rfl⟩
  | ok t =>
      rw [conclude_ok phase]
      exact ⟨rfl, rfl, rfl⟩

private theorem received_joinNext (phase : s.phase = .terminating) (t : Tunnel) (cause : Cause)
    (role : Role) : (s.joinNext t cause role).coordinator.received? = some cause ∧
      (s.joinNext t cause role).channel = s.channel ∧
      (s.joinNext t cause role).told = s.told := by
  cases role with
  | uplink | downlink => exact ⟨rfl, rfl, rfl⟩
  | listener =>
      rw [joinNext, endTeardown_eq phase]
      exact ⟨rfl, rfl, rfl⟩

theorem received_coordinator (stage : Stage c s) (step : CoordinatorStep c s s')
    (owed : s.coordinator.received? = none → s.told = [] →
      (∀ role, s.status role = .finished) → s.channel ≠ []) :
    (s'.coordinator.received? = s.coordinator.received? ∧ s'.channel = s.channel ∧
      s'.told = s.told) ∨
    ∃ cause, s.coordinator.received? = none ∧ s.channel = cause :: s'.channel ∧
      s'.coordinator.received? = some cause ∧ s'.told = roles ∧
      s'.world.events = s.world.events ++ [.entered .terminating, .broadcast] := by
  cases step with
  | @settle _ outcome w state turn eq =>
      have phase := ((stage_handshaking state).mp stage).phase
      rw [eq, state]
      exact .inl (received_conclude (s := s.withWorld w) phase outcome)
  | @receive t cause rest state queue eq =>
      have carrying := (stage_awaiting state).mp stage
      refine .inr ⟨cause, ?_, ?_⟩
      · rw [state]
        rfl
      · rw [eq, beginTeardown_eq (s := { s with channel := rest }) carrying.phase]
        refine ⟨queue, rfl, carrying.subscribers, ?_⟩
        change (s.world.events ++ [Event.entered .terminating]) ++ [Event.broadcast] = _
        rw [List.append_assoc]
        rfl
  | despair state queue halted eq =>
      have carrying := (stage_awaiting state).mp stage
      exact absurd queue (owed (by rw [state]; rfl) carrying.told halted)
  | @join t cause role deadline state halted eq =>
      have phase := ((stage_joining state).mp stage).phase
      rw [eq, state]
      exact .inl (received_joinNext phase t cause role)
  | @abandon t cause role deadline state eq =>
      have phase := ((stage_joining state).mp stage).phase
      rw [eq, state]
      exact .inl (received_joinNext (s := s.abandon role) phase t cause role)

theorem Overseen.status (h : Overseen s s') (role : Role) :
    s'.status role = s.status role ∨
      s.status role = .unborn ∧ s'.status role = .running () := by
  rcases h.tasks with ⟨huplink, hdownlink, hlistener⟩ | ⟨unborn, huplink, hdownlink, hlistener⟩
  · left
    cases role <;> simp only [Session.status, huplink, hdownlink, hlistener]
  · refine .inr ⟨unborn role, ?_⟩
    cases role <;> simp only [Session.status, huplink, hdownlink, hlistener, Worker.sketch]

theorem Overseen.status_eq {role : Role} {w : Worker Unit} (h : Overseen s s')
    (after : s'.status role = w) (moved : w ≠ .running ()) : s.status role = w := by
  rcases h.status role with same | ⟨-, running⟩
  · rw [← same, after]
  · rw [after] at running
    exact absurd running moved

theorem Overseen.unspent {taken : Bool} (h : Overseen s s') (unspent : Unspent taken s) :
    Unspent taken s' := by
  rw [Unspent, h.trigger]
  rcases h.tasks with ⟨-, -, hlistener⟩ | ⟨unborn, -, -, -⟩
  · rw [hlistener]
    exact unspent
  · intro _
    have before : s.listener.sketch = .unborn := unborn .listener
    refine unspent (.inl ?_)
    cases hl : s.listener with
    | unborn => rfl
    | running l | reporting cause | finished => simp [hl, Worker.sketch] at before

theorem accounts_oversee (h : Accounts c trigger moves s) {m : Move} (stage : Stage c s)
    (step : CoordinatorStep c s s') (overseen : Overseen s s') :
    Accounts c trigger (moves ++ [m]) s' := by
  obtain ⟨es, hes, silent, -⟩ := overseen.events
  have same : s'.reports = s.reports := by
    rw [reports_append hes, silent, List.append_nil]
  have owed : s.coordinator.received? = none → s.told = [] →
      (∀ role, s.status role = .finished) → s.channel ≠ [] := by
    intro none told halted empty
    have one := h.owed told .uplink (halted .uplink)
    rw [h.queue, none, empty] at one
    cases one
  have received := received_coordinator stage step owed
  refine ⟨?_, ?_, ?_, ?_, ?_, ?_, ?_, ?_, ?_, ?_⟩
  · rcases received with ⟨hreceived, hchannel, -⟩ | ⟨cause, hnone, hqueue, hreceived, -⟩
    · rw [same, hreceived, hchannel]
      exact h.queue
    · rw [same, h.queue, hnone, hqueue, hreceived]
      rfl
  · intro role hrole
    rw [same]
    refine h.unreported role ?_
    intro halted
    rcases overseen.status role with status | ⟨unborn, -⟩
    · rw [status] at hrole
      exact hrole halted
    · rw [unborn] at halted
      cases halted
  · rw [same]
    exact h.once
  · intro told role hrole
    rw [same]
    rcases received with ⟨-, -, htold⟩ | ⟨-, -, -, -, htold, -⟩
    · rw [htold] at told
      exact h.owed told role (overseen.status_eq hrole (by simp))
    · rw [htold] at told
      cases told
  · rw [same]
    exact h.own
  · rw [same]
    intro cause hcause
    exact met_later hes (h.met cause hcause)
  · intro role cause hrole
    obtain ⟨own, met⟩ := h.ready role cause (overseen.status_eq hrole (by simp))
    exact ⟨own, met_later hes met⟩
  · intro r hr
    rw [overseen.trigger] at hr
    exact (h.asked r hr).append [m]
  · exact overseen.unspent h.unspent
  · intro cause hcause
    rcases received with ⟨hreceived, -, -⟩ | ⟨cause', hnone, hqueue, hreceived, -, hevents⟩
    · rw [hreceived] at hcause
      rw [hes]
      exact (h.heralded cause hcause).append es
    · rw [hreceived] at hcause
      cases hcause
      refine ⟨s.world.events, [], hevents, ?_⟩
      change s.reports.head? = some cause
      rw [h.queue, hnone, hqueue]
      rfl

/-! ## All along -/

private theorem quiet_begun (c : Setup) (w : World) (trigger : Trigger) :
    (begun c w trigger).reports = [] ∧ (begun c w trigger).channel = [] ∧
      (begun c w trigger).coordinator.received? = none := by
  obtain ⟨es, hes, silent, -⟩ := (overseen_begun c w trigger).events
  constructor
  · rw [reports_append hes, silent]
    rfl
  · obtain ⟨w', -, -, -, -, ⟨e, -, eq⟩ | ⟨h, eq⟩⟩ := begun_cases c w trigger
    · obtain ⟨received, channel, -⟩ :=
        received_conclude (s := (opened w trigger).withWorld w') rfl (.error e)
      rw [eq]
      exact ⟨channel, received⟩
    · rw [eq]
      exact ⟨rfl, rfl⟩

private theorem accounts_begun (c : Setup) (w : World) (trigger : Trigger) :
    Accounts c trigger [] (begun c w trigger) := by
  obtain ⟨none, channel, received⟩ := quiet_begun c w trigger
  obtain ⟨huplink, hdownlink, hlistener, htrigger⟩ := tasks_begun c w trigger
  have unborn : ∀ role, (begun c w trigger).status role = .unborn := by
    intro role
    cases role <;> simp only [status, huplink, hdownlink, hlistener, Worker.sketch]
  refine ⟨?_, ?_, ?_, ?_, ?_, ?_, ?_, ?_, ?_, ?_⟩
  · rw [none, received, channel]
    rfl
  · intro role _
    rw [none]
    rfl
  · intro role
    rw [none]
    exact Nat.zero_le 1
  · intro _ role halted
    rw [unborn role] at halted
    cases halted
  · simp [none]
  · simp [none]
  · intro role cause ready
    rw [unborn role] at ready
    cases ready
  · intro r hr
    rw [htrigger] at hr
    exact .inl hr
  · intro _
    rw [htrigger]
  · intro cause hcause
    rw [received] at hcause
    cases hcause

theorem Accounts.idle (h : Accounts c trigger moves s) (m : Move) :
    Accounts c trigger (moves ++ [m]) s where
  queue := h.queue
  unreported := h.unreported
  once := h.once
  owed := h.owed
  own := h.own
  met cause hcause := met_later (List.append_nil _).symm (h.met cause hcause)
  ready role cause hrole :=
    ⟨(h.ready role cause hrole).1, met_later (List.append_nil _).symm (h.ready role cause hrole).2⟩
  asked r hr := (h.asked r hr).append [m]
  unspent := h.unspent
  heralded := h.heralded

theorem accounts_move {m : Move} (stage : Stage c s) (step : MoveStep c s s' m)
    (h : Accounts c trigger moves s) : Accounts c trigger (moves ++ [m]) s' := by
  cases step with
  | idle inner same =>
      rw [same]
      exact h.idle m
  | @feel x eq =>
      rw [eq]
      exact accounts_feel h x
  | task step beside unspent => exact accounts_task h step beside unspent
  | oversee step overseen => exact accounts_oversee h stage step overseen

theorem accounts_course (c : Setup) (w : World) (trigger : Trigger) (moves : List Move) :
    Accounts c trigger moves (course c w trigger moves) :=
  course_induction (P := Accounts c trigger) (accounts_begun c w trigger)
    (fun _ _ _ _ stage step h => accounts_move stage step h) moves

/-! ## Room in the channel -/

theorem Accounts.length_le (h : Accounts c trigger moves s) :
    s.reports.length ≤ channelCapacity := by
  have huplink := h.once .uplink
  have hdownlink := h.once .downlink
  have hlistener := h.once .listener
  rw [length_eq_tally h.own, channelCapacity]
  omega

/-- A task that is about to report finds room, because its own report is not in the channel. -/
theorem Accounts.room (h : Accounts c trigger moves s) {role : Role} {cause : Cause}
    (ready : s.status role = .reporting cause) : s.channel.length < channelCapacity := by
  have own := h.unreported role (by simp [ready])
  have huplink := h.once .uplink
  have hdownlink := h.once .downlink
  have hlistener := h.once .listener
  have queue : s.channel.length ≤ s.reports.length := by
    rw [h.queue, List.length_append]
    omega
  rw [length_eq_tally h.own] at queue
  rw [channelCapacity]
  cases role with
  | uplink | downlink | listener => omega

private theorem eq_reporting_of_sketch {σ : Type} {w : Worker σ} {cause : Cause}
    (h : w.sketch = .reporting cause) : w = .reporting cause := by
  cases w with
  | reporting other =>
      cases h
      rfl
  | unborn | running state | finished => cases h

theorem stepRole_of_reporting {role : Role} {cause : Cause} (obey : Bool)
    (ready : s.status role = .reporting cause) (room : s.channel.length < channelCapacity) :
    ∃ s', s.stepRole c role obey = some s' ∧ s'.status role = .finished ∧
      s'.reports = s.reports ++ [cause] := by
  have post : s.post? cause =
      some ({ s with channel := s.channel ++ [cause] }.record (.reported cause)) := by
    rw [post?, if_pos room]
  have more : s.world.events.filterMap Event.report? ++ [cause] =
      (s.world.events ++ [Event.reported cause]).filterMap Event.report? := by
    rw [List.filterMap_append]
    rfl
  cases role with
  | uplink =>
      have step : s.stepRole c .uplink obey =
          (s.post? cause).map fun s => { s with uplink := .finished } := by
        simp only [stepRole, stepUplink, eq_reporting_of_sketch (w := s.uplink) ready]
      rw [post] at step
      exact ⟨_, step, rfl, more.symm⟩
  | downlink =>
      have step : s.stepRole c .downlink obey =
          (s.post? cause).map fun s => { s with downlink := .finished } := by
        simp only [stepRole, stepDownlink, eq_reporting_of_sketch (w := s.downlink) ready]
      rw [post] at step
      exact ⟨_, step, rfl, more.symm⟩
  | listener =>
      have step : s.stepRole c .listener obey =
          (s.post? cause).map fun s => { s with listener := .finished } := by
        simp only [stepRole, stepListener, eq_reporting_of_sketch (w := s.listener) ready]
      rw [post] at step
      exact ⟨_, step, rfl, more.symm⟩

end Session

end TunnelClient
