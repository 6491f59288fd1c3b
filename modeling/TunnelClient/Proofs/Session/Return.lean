import TunnelClient.Proofs.Session.Startup
import TunnelClient.Session.Log

/-!
# The way back to the default route

The device and the return of the former default route.  A teardown brings the device down
first; an installation that could not move the default route puts it back under a device
that is still up, and only then brings that down.
-/

namespace TunnelClient

def Event.isDefaulting : Event → Bool
  | route (.change _ (.setDefault _) _) => true
  | _ => false

/-! ## Logs -/

/-- An attempt to set the default route, between what was done before it and what is done after.
The first one leads into the tunnel, the second one back to the gateway that was read.  The device
is down at the second one if the first succeeded; otherwise it only goes down later. -/
inductive Attempt (c : Setup) (before after : List Event) (gateway : Ipv4) : Prop
  | onward {a : TunnelAddress}
      (created : .created (c.device.withAddress a.inner) (.ok ()) ∈ before)
      (tunnel : gateway = a.gateway) (first : ∀ e ∈ before, e.isDefaulting = false)
  | back {a : TunnelAddress} {b₁ : Bool} {first : Except HostError Unit}
      (created : .created (c.device.withAddress a.inner) (.ok ()) ∈ before)
      (read : ∃ b, .route (.read b (.ok gateway)) ∈ before)
      (second : before.filter Event.isDefaulting =
        [.route (.change b₁ (.setDefault a.gateway) first)])
      (lowered : (∃ o, .lowered o ∈ before) ↔ first = .ok ())
      (sometime : ∃ o, .lowered o ∈ before ++ after)

def Settled (c : Setup) (work : List Event) : Prop :=
  ∀ (before after : List Event) (b : Bool) (gateway : Ipv4) (outcome : Except HostError Unit),
    work = before ++ .route (.change b (.setDefault gateway) outcome) :: after →
    Attempt c before after gateway

/-- Where a list is cut at an element of a kind, that is the first of its kind or a later one. -/
theorem cut_cases {α : Type} {p : α → Bool} {front back before after : List α} {x z : α}
    (clean : ∀ y ∈ front, p y = false) (hit : p z = true)
    (h : front ++ x :: back = before ++ z :: after) :
    (front = before ∧ x = z ∧ back = after) ∨
      ∃ between, before = front ++ x :: between ∧ back = between ++ z :: after := by
  rcases List.append_eq_append_iff.mp h with ⟨between, rfl, rest⟩ | ⟨between, rfl, rest⟩
  · cases between with
    | nil =>
        cases rest
        exact .inl ⟨(List.append_nil front).symm, rfl, rfl⟩
    | cons y between =>
        cases rest
        exact .inr ⟨between, rfl, rfl⟩
  · cases between with
    | nil =>
        cases rest
        exact .inl ⟨List.append_nil before, rfl, rfl⟩
    | cons y between =>
        cases rest
        have missed := clean z (List.mem_append_right before List.mem_cons_self)
        exact absurd (hit.symm.trans missed) (by decide)

section Logs

variable {c : Setup} {a : TunnelAddress} {mid back : List Event} {b₁ b₂ : Bool} {former peer : Ipv4}
  {first second : Except HostError Unit}

/-- What has been done when the default route is first set. -/
def preparation (c : Setup) (a : TunnelAddress) (former peer : Ipv4) : List Event :=
  [.created (c.device.withAddress a.inner) (.ok ()), .raised (.ok ()),
    .route (.read true (.ok former)), .route (.change true (.setHost former peer) (.ok ())),
    .route (.change true .clearDefault (.ok ()))]

private theorem created_mem_preparation (c : Setup) (a : TunnelAddress) (former peer : Ipv4) :
    .created (c.device.withAddress a.inner) (.ok ()) ∈ preparation c a former peer :=
  List.mem_cons_self

private theorem quiet_preparation : ∀ e ∈ preparation c a former peer, e.isDefaulting = false := by
  simp [preparation, Event.isDefaulting]

private theorem settled_of_quiet {work : List Event} (quiet : ∀ e ∈ work, e.isDefaulting = false) :
    Settled c work := by
  rintro before after b gateway outcome rfl
  cases quiet _ (List.mem_append_right before List.mem_cons_self)

private theorem settled_of_onward :
    Settled c
      (preparation c a former peer ++ [.route (.change b₁ (.setDefault a.gateway) first)]) := by
  intro before after b gateway outcome split
  rcases cut_cases quiet_preparation rfl split with ⟨rfl, same, -⟩ | ⟨between, -, none⟩
  · cases same
    exact .onward (created_mem_preparation c a former peer) rfl quiet_preparation
  · cases between <;> cases none

private theorem settled_of_back (quiet : ∀ e ∈ mid ++ back, e.isDefaulting = false)
    (lowered : (∃ o, .lowered o ∈ mid) ↔ first = .ok ())
    (sometime : ∃ o, .lowered o ∈ mid ++ back) :
    Settled c (preparation c a former peer ++ .route (.change b₁ (.setDefault a.gateway) first) ::
      (mid ++ .route (.change b₂ (.setDefault former) second) :: back)) := by
  have created := created_mem_preparation c a former peer
  have quiet_mid : ∀ e ∈ mid, e.isDefaulting = false :=
    fun e he => quiet e (List.mem_append_left back he)
  intro before after b gateway outcome split
  rcases cut_cases quiet_preparation rfl split with ⟨rfl, same, -⟩ | ⟨between, rfl, rest⟩
  · cases same
    exact .onward created rfl quiet_preparation
  · rcases cut_cases quiet_mid rfl rest with ⟨rfl, same, rfl⟩ | ⟨between', rfl, rfl⟩
    · cases same
      have none : mid.filter Event.isDefaulting = [] :=
        List.filter_eq_nil_iff.mpr fun e he => by simp [quiet_mid e he]
      refine @Attempt.back _ _ _ _ a b₁ first (List.mem_append_left _ created)
        ⟨true, by simp [preparation]⟩ ?_ ?_ ?_
      · rw [List.filter_append, List.filter_cons_of_pos rfl, none]
        rfl
      · rw [← lowered]
        simp [preparation]
      · obtain ⟨o, low⟩ := sometime
        refine ⟨o, ?_⟩
        rw [List.append_assoc, List.cons_append]
        exact List.mem_append_right _ (List.mem_cons_of_mem _ low)
    · have last : Event.route (.change b (.setDefault gateway) outcome) ∈
          mid ++ (between' ++ .route (.change b (.setDefault gateway) outcome) :: after) := by simp
      cases quiet _ last

private theorem Attempt.of_filter {before after : List Event} {gateway : Ipv4}
    (h : Attempt c (before.filter Event.isHostWork) (after.filter Event.isHostWork) gateway) :
    Attempt c before after gateway := by
  have inner : ∀ {es : List Event},
      (es.filter Event.isHostWork).filter Event.isDefaulting = es.filter Event.isDefaulting := by
    intro es
    rw [List.filter_filter]
    refine List.filter_congr fun e _ => ?_
    cases e <;> simp [Event.isDefaulting, Event.isHostWork]
  have kept : ∀ {e : Event} {es : List Event}, e ∈ es.filter Event.isHostWork → e ∈ es :=
    fun mem => (List.mem_filter.mp mem).1
  cases h with
  | onward created tunnel first =>
      refine .onward (kept created) tunnel ?_
      have none : before.filter Event.isDefaulting = [] := by
        rw [← inner, List.filter_eq_nil_iff]
        exact fun e he => by simp [first e he]
      exact fun e he => by simpa using List.filter_eq_nil_iff.mp none e he
  | back created read second lowered sometime =>
      obtain ⟨b, read⟩ := read
      refine .back (kept created) ⟨b, kept read⟩ (inner ▸ second) ?_ ?_
      · simpa only [List.mem_filter, Event.isHostWork, and_true] using lowered
      · simpa only [← List.filter_append, List.mem_filter, Event.isHostWork, and_true]
          using sometime

end Logs

/-! ## Setting up -/

namespace World

private theorem events_install_failed {peer gateway : Ipv4} {e : HostError} {w w' : World}
    (h : Detour.install router peer gateway w = (.error e, w')) :
    ∃ es, w'.events = w.events ++ es ∧ (∀ e ∈ es, e.isHostWork = true) ∧
      ((∀ e ∈ es, e.isDefaulting = false) ∨
        ∃ former b₁ b₂ b₃ failure second removed, es =
          [.route (.read true (.ok former)), .route (.change true (.setHost former peer) (.ok ())),
            .route (.change true .clearDefault (.ok ())),
            .route (.change b₁ (.setDefault gateway) (.error failure)),
            .route (.change b₂ (.setDefault former) second),
            .route (.change b₃ (.clearHost peer) removed)]) := by
  have failed : ∀ {c : RouteChange} {e : HostError} {w w' : World},
      w.changeRoute c = (.error e, w') →
      w'.events = w.events ++ [.route (.change w.routes.reaches c (.error e))] := by
    intro c e w w' h
    have log := events_change c w
    rw [h] at log
    exact log
  cases Detour.installation_of_eq h with
  | unread read =>
      have log : w.readRoute.2.events = w.events ++
          [.route (.read w.routes.reaches w.readRoute.1)] := rfl
      change w.readRoute = _ at read
      rw [read] at log
      exact ⟨_, log, by simp [Event.isHostWork], .inl (by simp [Event.isDefaulting])⟩
  | @unpinned former _ w₁ _ read host =>
      have log : w'.events = w.events ++ [.route (.read true (.ok former)),
          .route (.change w₁.routes.reaches (.setHost former peer) (.error e))] := by
        rw [failed host, (readRoute_eq_ok read).2.2, List.append_assoc]
        rfl
      exact ⟨_, log, by simp [Event.isHostWork], .inl (by simp [Event.isDefaulting])⟩
  | @uncleared former _ w₁ w₂ w₃ read host clear =>
      have log : (w₃.changeRoute (.clearHost peer)).2.events = w.events ++
          [.route (.read true (.ok former)), .route (.change true (.setHost former peer) (.ok ())),
            .route (.change w₂.routes.reaches .clearDefault (.error e)),
            .route (.change w₃.routes.reaches (.clearHost peer)
              (w₃.changeRoute (.clearHost peer)).1)] := by
        rw [events_change, failed clear, (changeRoute_eq_ok host).2.1, (readRoute_eq_ok read).2.2]
        simp only [List.append_assoc, List.cons_append, List.nil_append]
      exact ⟨_, log, by simp [Event.isHostWork], .inl (by simp [Event.isDefaulting])⟩
  | @unset former _ w₁ w₂ w₃ w₄ read host clear set =>
      generalize second : w₄.changeRoute (.setDefault former) = undone
      have log : (undone.2.changeRoute (.clearHost peer)).2.events = w.events ++
          [.route (.read true (.ok former)), .route (.change true (.setHost former peer) (.ok ())),
            .route (.change true .clearDefault (.ok ())),
            .route (.change w₃.routes.reaches (.setDefault gateway) (.error e)),
            .route (.change w₄.routes.reaches (.setDefault former) undone.1),
            .route (.change undone.2.routes.reaches (.clearHost peer)
              (undone.2.changeRoute (.clearHost peer)).1)] := by
        rw [events_change, ← second, events_change, failed set, (changeRoute_eq_ok clear).2.1,
          (changeRoute_eq_ok host).2.1, (readRoute_eq_ok read).2.2]
        simp only [List.append_assoc, List.cons_append, List.nil_append]
      subst second
      exact ⟨_, log, by simp [Event.isHostWork], .inr ⟨former, _, _, _, e, _, _, rfl⟩⟩

end World

namespace Handshake

variable {c : Setup} {peer : Ipv4} {a : TunnelAddress} {w w' : World}

theorem Collapse.settled (h : Collapse c peer a w w')
    (idle : w.events.filter Event.isHostWork = []) :
    Settled c (w'.events.filter Event.isHostWork) := by
  cases h with
  | uncreated device socket routes events =>
      rw [events, List.filter_append, idle]
      exact settled_of_quiet (by simp [Event.isHostWork, Event.isDefaulting])
  | @unraised e w₁ device socket routes events =>
      obtain ⟨-, -, -, outcome, lowered⟩ := World.bringDown_spec w₁
      have quiet : ∀ x ∈ [.created (c.device.withAddress a.inner) (.ok ()), .raised (.error e),
          .lowered outcome], Event.isDefaulting x = false := by
        simp [Event.isDefaulting]
      rw [lowered, events, List.filter_append, List.filter_append, idle]
      exact settled_of_quiet quiet
  | @undirected e w₁ w₂ device socket routes events install =>
      obtain ⟨-, -, -, outcome, lowered⟩ := World.bringDown_spec w₂
      obtain ⟨es, calls, work, ended⟩ := World.events_install_failed install
      have log : w₂.bringDown.events.filter Event.isHostWork =
          [.created (c.device.withAddress a.inner) (.ok ()), .raised (.ok ())] ++ es ++
            [.lowered outcome] := by
        rw [lowered, calls, events, List.filter_append, List.filter_append, List.filter_append,
          idle, List.filter_eq_self.mpr work]
        rfl
      rw [log]
      rcases ended with none | ⟨former, b₁, b₂, b₃, failure, second, removed, rfl⟩
      · refine settled_of_quiet ?_
        rw [List.forall_mem_append, List.forall_mem_append]
        exact ⟨⟨by simp [Event.isDefaulting], none⟩, by simp [Event.isDefaulting]⟩
      · -- Nothing is done between the two attempts, so that the device is still up at the second.
        refine @settled_of_back c a [] [.route (.change b₃ (.clearHost peer) removed),
          .lowered outcome] b₁ b₂ former peer (.error failure) second ?_ ?_ ?_
        · simp [Event.isDefaulting]
        · simp
        · exact ⟨outcome, by simp⟩

end Handshake

/-! ## Sessions -/

namespace Session

variable {c : Setup} {s s' : Session} {t : Tunnel}

private theorem hostWork_closingLog (c : Setup) (t : Tunnel) (abandoned : List Role) :
    (closingLog c t abandoned).filter Event.isHostWork = t.log c := by
  have none : (abandoned.map Event.abandoned).filter Event.isHostWork = [] := by
    simp [List.filter_eq_nil_iff, Event.isHostWork]
  rw [closingLog, List.filter_append, none, List.append_nil]
  rfl

theorem Tunnelled.log_eq (h : Tunnelled c t s) : t.log c =
    preparation c t.address t.snapshot.former t.snapshot.peer ++
      [.route (.change true (.setDefault t.address.gateway) (.ok ()))] := by
  rw [← h.gateway]
  rfl

theorem Tunnelled.settled_log (h : Tunnelled c t s) : Settled c (t.log c) := by
  rw [h.log_eq]
  exact settled_of_onward

/-! ### Failed sessions -/

def SettledIfFailed (c : Setup) (s : Session) : Prop :=
  ∀ e, s.coordinator = .finished (.error e) → Settled c s.hostWork

private theorem settled_begun (c : Setup) (w : World) (trigger : Trigger) :
    SettledIfFailed c (begun c w trigger) := by
  intro e failed
  obtain ⟨w', -, relayed, -, -, ⟨e', -, eq⟩ | ⟨h, eq⟩⟩ := begun_cases c w trigger
  · have idle : (opened w trigger).world.events.filter Event.isHostWork = [] := rfl
    rw [eq, hostWork_conclude_error rfl, filter_hostWork_of_relayed relayed, idle]
    exact settled_of_quiet (by simp)
  · rw [eq] at failed
    cases failed

theorem settled_step {h : Handshake} {e : ClientError} {w : World} (shaking : Shaking s)
    (hstep : h.step c s.world = some (.finished (.error e), w)) :
    Settled c (w.events.filter Event.isHostWork) := by
  have idle := shaking.hostWork
  rw [Session.hostWork] at idle
  obtain ⟨outcome, ⟨⟩, ⟨-, -, -, relayed⟩ |
    ⟨reply, a, peer, w₁, relayed, received, grant, -, hset⟩⟩ := Handshake.step_cases hstep
  · rw [filter_hostWork_of_relayed relayed, idle]
    exact settled_of_quiet (by simp)
  · exact (Handshake.collapse_of_setUp hset).2.settled
      ((filter_hostWork_of_relayed relayed).trans idle)

theorem settled_move (stage : Stage c s) (held : HoldsWhatItRead s) (h : SettledIfFailed c s)
    (m : Move) : SettledIfFailed c (s.move c m) := by
  have beside : ∀ {s'}, Aside s s' → SettledIfFailed c s' := by
    intro s' aside e failed
    rw [aside.coordinator] at failed
    rw [hostWork_aside aside]
    exact h e failed
  have step := (move_cases stage held m).1
  generalize moved : s.move c m = s' at step
  cases step with
  | idle inner same =>
      rw [same]
      exact h
  | @feel x eq =>
      rw [eq]
      exact beside (aside_of_feel x s)
  | task step beside' => exact beside (aside_of_taskStep step beside')
  | oversee =>
      intro e failed
      rw [← moved] at failed ⊢
      rcases failed_coordinator stage held failed with still | ⟨hs, w, state, hstep, eq⟩
      · rw [still] at failed ⊢
        exact h e failed
      · have shaking := (stage_handshaking state).mp stage
        rw [eq, hostWork_conclude_error shaking.phase]
        exact settled_step shaking hstep

private theorem settled_failed (c : Setup) (w : World) (trigger : Trigger) (moves : List Move) :
    SettledIfFailed c (course c w trigger moves) := by
  induction moves using List.reverseRecOn with
  | nil => exact settled_begun c w trigger
  | append_singleton moves m ih =>
      rw [course_append]
      exact settled_move (stage_course c w trigger moves) (holds_course c w trigger moves) ih m

/-! ### All sessions -/

theorem Closed.settled (h : Closed c t s) : Settled c s.hostWork := by
  obtain ⟨undoing, ⟨down, shut, b₁, b₂, b₃, cleared, restored, removed, rfl⟩, log⟩ := h.milestones
  have work : s.hostWork = t.log c ++ [.lowered down, .route (.change b₁ .clearDefault cleared),
      .route (.change b₂ (.setDefault t.snapshot.former) restored),
      .route (.change b₃ (.clearHost t.snapshot.peer) removed)] := by
    rw [hostWork_eq, log, List.filter_append, hostWork_closingLog]
    rfl
  rw [work, h.toTunnelled.log_eq, List.append_assoc]
  refine @settled_of_back c t.address [.lowered down, .route (.change b₁ .clearDefault cleared)]
    [.route (.change b₃ (.clearHost t.snapshot.peer) removed)] true b₂ t.snapshot.former
    t.snapshot.peer (.ok ()) restored ?_ ?_ ?_
  · simp [Event.isDefaulting]
  · simp
  · exact ⟨down, by simp⟩

theorem settled_course (c : Setup) (w : World) (trigger : Trigger) (moves : List Move) :
    Settled c (course c w trigger moves).hostWork := by
  have stage := stage_course c w trigger moves
  have failed := settled_failed c w trigger moves
  generalize course c w trigger moves = s at *
  cases state : s.coordinator with
  | fresh =>
      rw [Stage, state] at stage
      exact stage.elim
  | handshaking h =>
      rw [((stage_handshaking state).mp stage).hostWork]
      exact settled_of_quiet (by simp)
  | awaiting t =>
      have awaiting := (stage_awaiting state).mp stage
      rw [hostWork_eq, awaiting.milestones]
      exact awaiting.toTunnelled.settled_log
  | joining t cause role deadline =>
      have joining := (stage_joining state).mp stage
      rw [hostWork_eq, joining.milestones, hostWork_closingLog]
      exact joining.toTunnelled.settled_log
  | finished outcome =>
      cases outcome with
      | error e => exact failed e state
      | ok report =>
          obtain ⟨t, -, closed⟩ := (stage_finished_ok state).mp stage
          exact closed.settled

/-- **When the former default route comes back.**  A session sets the default route to lead into its
tunnel, and then back.  The device is down before it is set back exactly if it had been set to lead
into the tunnel; if that had failed, the device goes down only afterwards. -/
theorem lowered_before_return {c : Setup} {w : World} {trigger : Trigger} {moves : List Move}
    {before after : List Event} {b : Bool} {gateway : Ipv4} {outcome : Except HostError Unit}
    (log : (course c w trigger moves).world.events =
      before ++ .route (.change b (.setDefault gateway) outcome) :: after) :
    Attempt c before after gateway := by
  have settled := settled_course c w trigger moves
  rw [hostWork, log, List.filter_append, List.filter_cons_of_pos rfl] at settled
  exact (settled _ _ _ _ _ rfl).of_filter

namespace Trial

/-- The call that would move the default route is refused; the former gateway lies in the network
of the granted address. -/
def unmoved : World where
  routes := { table := ⟨some ⟨0x0A0000FE⟩, []⟩, refused := [3] }

end Trial

def defaulted? : Event → Option (Ipv4 × Bool)
  | .route (.change _ (.setDefault gateway) outcome) => some (gateway, outcome.isOk)
  | _ => none

private theorem defaulted?_eq_some {e : Event} {gateway : Ipv4} {succeeds : Bool}
    (h : defaulted? e = some (gateway, succeeds)) :
    ∃ b outcome, e = .route (.change b (.setDefault gateway) outcome) ∧
      outcome.isOk = succeeds := by
  rw [defaulted?.eq_def] at h
  split at h
  · cases h
    exact ⟨_, _, rfl, rfl⟩
  · cases h

theorem lowered_before_return_unmoved :
    ∃ before after b outcome,
      (course Trial.setup Trial.unmoved {} Trial.opening).world.events =
        before ++ .route (.change b (.setDefault ⟨0x0A0000FE⟩) outcome) :: after ∧
      (¬ ∃ o, .lowered o ∈ before) ∧ ∃ o, .lowered o ∈ before ++ after := by
  have attempts : (course Trial.setup Trial.unmoved {} Trial.opening).world.events.filterMap
      defaulted? = [(⟨0x0A000001⟩, false), (⟨0x0A0000FE⟩, true)] := by
    decide +kernel
  obtain ⟨front, e₁, rest, log, -, attempt, later⟩ := List.filterMap_eq_cons_iff.mp attempts
  obtain ⟨mid, e₂, after, rfl, -, attempt', -⟩ := List.filterMap_eq_cons_iff.mp later
  obtain ⟨b₁, first, rfl, failed⟩ := defaulted?_eq_some attempt
  obtain ⟨b₂, second, rfl, -⟩ := defaulted?_eq_some attempt'
  have log' : (course Trial.setup Trial.unmoved {} Trial.opening).world.events =
      (front ++ .route (.change b₁ (.setDefault ⟨0x0A000001⟩) first) :: mid) ++
        .route (.change b₂ (.setDefault ⟨0x0A0000FE⟩) second) :: after := by
    rw [log, List.append_assoc, List.cons_append]
  have before := List.mem_append_right front
    (List.mem_cons_self : _ ∈ .route (.change b₁ (.setDefault ⟨0x0A000001⟩) first) :: mid)
  refine ⟨_, after, b₂, second, log', ?_⟩
  cases lowered_before_return log' with
  | onward _ _ none => cases none _ before
  | back _ _ onward lowered sometime =>
      have same := (List.mem_filter (p := Event.isDefaulting)).mpr ⟨before, rfl⟩
      rw [onward, List.mem_singleton, Event.route.injEq, RouteEvent.change.injEq] at same
      obtain ⟨-, -, rfl⟩ := same
      rw [lowered]
      refine ⟨?_, sometime⟩
      rintro rfl
      cases failed

theorem default_lost_unmoved :
    (course Trial.setup Trial.unmoved {} Trial.opening).hostWork.filterMap
        (Event.line? Trial.key) =
      ["tun create tun0 10.0.0.2/24 mtu 1400", "tun up", "route read_default = 10.0.0.254",
        "route set_host 192.0.2.1 via 10.0.0.254", "route clear_default",
        "route set_default 10.0.0.1 ! Route command `call 3` failed: refused",
        "route set_default 10.0.0.254", "route clear_host 192.0.2.1", "tun down"] ∧
      (course Trial.setup Trial.unmoved {} Trial.opening).world.routes.table.default = none := by
  decide +kernel

end Session

end TunnelClient
