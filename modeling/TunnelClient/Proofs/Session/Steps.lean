import TunnelClient.Proofs.Session.Handshake
import TunnelClient.Session.Run

/-!
# Moves of a session

What the moves of a session can be.  A task relays, meets a cause to end the session,
stops because it was told to, or reports; nothing else that it does concerns the
coordinator.
-/

namespace TunnelClient

/-! ## Causes -/

namespace Cause

def role? : Cause → Option Role
  | uplink _ => some .uplink
  | downlink _ => some .downlink
  | signal _ | signalFailed _ => some .listener
  | aborted => none

/-- The ways in which a task meets a cause: a call of its own failed, or it holds what cannot be
passed on, or the session was requested to end.  `spent` says that the signal had been waited on
before. -/
inductive Met (c : Setup) (events : List Event) (requested : TerminateRequest → Prop)
    (spent : Prop) : Cause → Prop
  | read {e : HostError} (failed : .readFailed e ∈ events) :
      Met c events requested spent (.uplink (.ofHost e))
  | wrap {p : Packet} {n : Nat} {e : WireError} (held : .read p ∈ events)
      (failed : Seal.wrapFrame c.key (c.nonces n) ⟨.data, p⟩ = .error e) :
      Met c events requested spent (.uplink (.ofWire e))
  | send {e : HostError} (failed : .sendFailed e ∈ events) :
      Met c events requested spent (.uplink (.ofHost e))
  | receive {e : HostError} (failed : .receiveFailed e ∈ events) :
      Met c events requested spent (.downlink (.ofHost e))
  | unwrap {d : Datagram} {e : WireError} (held : .received d ∈ events)
      (failed : Relay.packetOf c.key d = .error e) :
      Met c events requested spent (.downlink (.ofWire e))
  | write {p : Packet} {e : HostError} (failed : .wrote p (.error e) ∈ events) :
      Met c events requested spent (.downlink (.ofHost e))
  | request {r : TerminateRequest} (asked : requested r) :
      Met c events requested spent (.signal r)
  | consumed (consumed : spent) :
      Met c events requested spent (.signalFailed Trigger.consumedError)

variable {c : Setup} {events events' : List Event} {requested requested' : TerminateRequest → Prop}
  {spent spent' : Prop} {cause : Cause}

theorem Met.mono (h : Met c events requested spent cause) (hevents : events ⊆ events')
    (hrequested : ∀ r, requested r → requested' r) (hspent : spent → spent') :
    Met c events' requested' spent' cause := by
  cases h with
  | read failed => exact .read (hevents failed)
  | wrap held failed => exact .wrap (hevents held) failed
  | send failed => exact .send (hevents failed)
  | receive failed => exact .receive (hevents failed)
  | unwrap held failed => exact .unwrap (hevents held) failed
  | write failed => exact .write (hevents failed)
  | request asked => exact .request (hrequested _ asked)
  | consumed consumed => exact .consumed (hspent consumed)

end Cause

/-! ## Loops -/

namespace Relay

inductive LoopStep (told : Bool) (Met : ClientError → Prop) (t t' : Traffic) : Loop → Prop
  | work {l : Loop} (goes : ∀ e, l ≠ .ended e) (relayed : World.Relayed t.world t'.world) :
      LoopStep told Met t t' l
  | meet {e : ClientError} (met : Met e) (relayed : World.Relayed t.world t'.world) :
      LoopStep told Met t t' (.ended (some e))
  | stop (obeyed : told = true) (same : t' = t) : LoopStep told Met t t' (.ended none)

theorem cancel_cases {told obey : Bool} {input : Option (Loop × Traffic)} {t t' : Traffic}
    {l : Loop} (h : cancel told obey input t = some (l, t')) :
    (told = true ∧ l = .ended none ∧ t' = t) ∨ input = some (l, t') := by
  cases input with
  | some next =>
      simp only [cancel] at h
      split at h
      · rename_i both
        cases h
        exact .inl ⟨(Bool.and_eq_true_iff.mp both).1, rfl, rfl⟩
      · exact .inr h
  | none =>
      simp only [cancel] at h
      split at h
      · rename_i obeyed
        cases h
        exact .inl ⟨obeyed, rfl, rfl⟩
      · cases h

variable {c : Setup} {told obey : Bool} {l l' : Loop} {t t' : Traffic}

theorem uplinkStep_cases (requested : TerminateRequest → Prop) (spent : Prop)
    (held : ∀ p, l = .holding p → .read p ∈ t.world.events)
    (h : uplinkStep c told obey l t = some (l', t')) :
    LoopStep told (fun e => (Cause.uplink e).Met c t'.world.events requested spent) t t' l' ∧
      ∀ p, l' = .holding p → .read p ∈ t'.world.events := by
  cases l with
  | stuck | ended e => cases h
  | waiting =>
      rcases cancel_cases h with ⟨obeyed, rfl, rfl⟩ | hinput
      · exact ⟨.stop obeyed rfl, by simp⟩
      · rw [uplinkInput] at hinput
        cases hread : t.world.readPacket? with
        | none => simp [hread] at hinput
        | some reading =>
            obtain ⟨outcome, w⟩ := reading
            obtain ⟨relayed, hevents⟩ := World.relayed_readPacket? hread
            rw [hread] at hinput
            cases outcome with
            | ok p =>
                cases hinput
                refine ⟨.work (by simp) relayed, ?_⟩
                rintro q ⟨⟩
                simp [hevents, World.reading]
            | error e =>
                cases hinput
                refine ⟨.meet (.read ?_) relayed, by simp⟩
                simp [hevents, World.reading]
  | holding p =>
      have sealed := World.relayed_sealFrame c ⟨.data, p⟩ t.world
      have unchanged : (t.world.sealFrame c ⟨.data, p⟩).2.events = t.world.events := rfl
      simp only [uplinkStep, uplinkOutput, Option.some.injEq] at h
      cases hseal : t.world.sealFrame c ⟨.data, p⟩ with
      | mk outcome w =>
          simp only [hseal] at sealed unchanged h
          cases outcome with
          | error e =>
              cases h
              refine ⟨.meet (.wrap ?_ (congrArg Prod.fst hseal)) sealed, by simp⟩
              rw [unchanged]
              exact held p rfl
          | ok d =>
              obtain ⟨sent, hevents⟩ := World.relayed_send c d w
              cases hsend : w.send c d with
              | mk result w' =>
                  simp only [hsend] at sent hevents h
                  have relayed := sealed.trans sent
                  cases result with
                  | done | hangs =>
                      cases h
                      exact ⟨.work (by simp) relayed, by simp⟩
                  | failed e =>
                      cases h
                      refine ⟨.meet (.send ?_) relayed, by simp⟩
                      simp [hevents, World.sending]

theorem downlinkStep_cases (requested : TerminateRequest → Prop) (spent : Prop)
    (h : downlinkStep c told obey l t = some (l', t')) :
    LoopStep told (fun e => (Cause.downlink e).Met c t'.world.events requested spent) t t' l' := by
  cases l with
  | stuck | ended e => cases h
  | waiting =>
      rcases cancel_cases h with ⟨obeyed, rfl, rfl⟩ | hinput
      · exact .stop obeyed rfl
      · rw [downlinkInput] at hinput
        cases hreceive : t.world.receive? with
        | none => simp [hreceive] at hinput
        | some received =>
            obtain ⟨outcome, w⟩ := received
            obtain ⟨relayed, hevents⟩ := World.relayed_receive? hreceive
            rw [hreceive] at hinput
            cases outcome with
            | error e =>
                cases hinput
                refine .meet (.receive ?_) relayed
                simp [hevents, World.receipt]
            | ok d =>
                simp only at hinput
                cases hpacket : packetOf c.key d with
                | ok p =>
                    simp only [hpacket] at hinput
                    cases hinput
                    exact .work (by simp) relayed
                | error e =>
                    simp only [hpacket] at hinput
                    cases hinput
                    refine .meet (.unwrap ?_ hpacket) relayed
                    simp [hevents, World.receipt]
  | holding p =>
      have relayed := World.relayed_writePacket p t.world
      simp only [downlinkStep, downlinkOutput, Option.some.injEq] at h
      cases hwrite : t.world.writePacket p with
      | mk result w =>
          rw [hwrite] at relayed
          simp only [hwrite] at h
          cases result with
          | done | hangs =>
              cases h
              exact .work (by simp) relayed
          | failed e =>
              cases h
              exact .meet (.write (World.events_writePacket_failed hwrite)) relayed

end Relay

/-! ## Tasks -/

def Worker.sketch : Worker σ → Worker Unit
  | unborn => .unborn
  | running _ => .running ()
  | reporting cause => .reporting cause
  | finished => .finished

namespace Session

def status (role : Role) (s : Session) : Worker Unit :=
  match role with
  | .uplink => s.uplink.sketch
  | .downlink => s.downlink.sketch
  | .listener => s.listener.sketch

structure Beside (role : Role) (s s' : Session) : Prop where
  phase : s'.phase = s.phase
  coordinator : s'.coordinator = s.coordinator
  subscribers : s'.subscribers = s.subscribers
  told : s'.told = s.told
  abandoned : s'.abandoned = s.abandoned
  request : s'.trigger.request? = s.trigger.request?
  uplink : role ≠ .uplink → s'.uplink = s.uplink
  downlink : role ≠ .downlink → s'.downlink = s.downlink
  listener : role ≠ .listener → s'.listener = s.listener ∧ s'.trigger = s.trigger

theorem Beside.others {role r : Role} {s s' : Session} (h : Beside role s s') (hr : r ≠ role) :
    s'.status r = s.status r := by
  cases r with
  | uplink => simp only [status, h.uplink hr.symm]
  | downlink => simp only [status, h.downlink hr.symm]
  | listener => simp only [status, (h.listener hr.symm).1]

inductive TaskStep (c : Setup) (role : Role) (s s' : Session) : Prop
  | work (before : s.status role = .running ()) (after : s'.status role = .running ())
      (relayed : World.Relayed s.world s'.world) (channel : s'.channel = s.channel)
  | meet {cause : Cause} (before : s.status role = .running ())
      (after : s'.status role = .reporting cause) (own : cause.role? = some role)
      (met : cause.Met c s'.world.events (fun r => s.trigger.request? = some r)
        (s.listener = .running .fresh ∧ s.trigger.taken = true))
      (relayed : World.Relayed s.world s'.world) (channel : s'.channel = s.channel)
  | stop (before : s.status role = .running ()) (after : s'.status role = .finished)
      (obeyed : role ∈ s.told) (world : s'.world = s.world) (channel : s'.channel = s.channel)
  | report {cause : Cause} (before : s.status role = .reporting cause)
      (after : s'.status role = .finished) (room : s.channel.length < channelCapacity)
      (world : s'.world = s.world.record (.reported cause))
      (channel : s'.channel = s.channel ++ [cause])

variable {c : Setup} {obey : Bool} {s s' : Session}

theorem post?_eq_some {cause : Cause} (h : s.post? cause = some s') :
    s.channel.length < channelCapacity ∧
      s' = { s with channel := s.channel ++ [cause] }.record (.reported cause) := by
  rw [post?] at h
  split at h
  · rename_i room
    exact ⟨room, (Option.some.inj h).symm⟩
  · cases h

private theorem taskStep_of_loopStep {role : Role} {report : ClientError → Cause} {l : Loop}
    (own : ∀ e, (report e).role? = some role) (before : s.status role = .running ())
    (after : s'.status role = (afterLoop report l).sketch) (channel : s'.channel = s.channel)
    (step : Relay.LoopStep (s.told.contains role)
      (fun e => (report e).Met c s'.world.events (fun r => s.trigger.request? = some r)
        (s.listener = .running .fresh ∧ s.trigger.taken = true)) s.traffic s'.traffic l) :
    TaskStep c role s s' := by
  cases step with
  | work goes relayed =>
      refine .work before ?_ relayed channel
      rw [after]
      cases l with
      | ended e => exact absurd rfl (goes e)
      | waiting | holding p | stuck => rfl
  | meet met relayed => exact .meet before after (own _) met relayed channel
  | stop obeyed same =>
      exact .stop before after (by simpa using obeyed) (congrArg Traffic.world same) channel

/-- What the uplink holds, it has read. -/
def HoldsWhatItRead (s : Session) : Prop :=
  ∀ p, s.uplink = .running (.holding p) → .read p ∈ s.world.events

theorem HoldsWhatItRead.mono (h : HoldsWhatItRead s) (uplink : s'.uplink = s.uplink)
    (events : s.world.events ⊆ s'.world.events) : HoldsWhatItRead s' := by
  intro p hp
  rw [uplink] at hp
  exact events (h p hp)

/-- Until the listener waits on the signal, it is as it was. -/
def Unspent (taken : Bool) (s : Session) : Prop :=
  s.listener = .unborn ∨ s.listener = .running .fresh → s.trigger.taken = taken

theorem TaskStep.events {role : Role} (h : TaskStep c role s s') :
    ∃ es, s'.world.events = s.world.events ++ es ∧ (∀ e ∈ es, e.isMilestone = false) ∧
      es.countP Event.isClosing = 0 := by
  have traffic : World.Relayed s.world s'.world →
      ∃ es, s'.world.events = s.world.events ++ es ∧ (∀ e ∈ es, e.isMilestone = false) ∧
        es.countP Event.isClosing = 0 := by
    intro relayed
    obtain ⟨es, hes, htraffic⟩ := relayed.events
    exact ⟨es, hes, fun e he => Event.isMilestone_of_isTraffic (htraffic e he),
      (Event.plain_of_calls fun e he => .inl (htraffic e he)).2⟩
  cases h with
  | work _ _ relayed _ | meet _ _ _ _ relayed _ => exact traffic relayed
  | stop _ _ _ world _ => exact ⟨[], by simp [world], by simp, rfl⟩
  | report _ _ _ world _ =>
      refine ⟨_, by rw [world]; rfl, ?_, rfl⟩
      simp [Event.isMilestone, Event.isHostWork]

private theorem beside_uplink {l : Worker Loop} {channel : List Cause} {traffic : Traffic} :
    Beside .uplink s { s with uplink := l, channel := channel, traffic := traffic } :=
  ⟨rfl, rfl, rfl, rfl, rfl, rfl, fun h => absurd rfl h, fun _ => rfl, fun _ => ⟨rfl, rfl⟩⟩

private theorem beside_downlink {l : Worker Loop} {channel : List Cause} {traffic : Traffic} :
    Beside .downlink s { s with downlink := l, channel := channel, traffic := traffic } :=
  ⟨rfl, rfl, rfl, rfl, rfl, rfl, fun _ => rfl, fun h => absurd rfl h, fun _ => ⟨rfl, rfl⟩⟩

private theorem beside_listener {l : Worker Listening} {trigger : Trigger} {channel : List Cause}
    {traffic : Traffic} (request : trigger.request? = s.trigger.request?) :
    Beside .listener s { s with
      listener := l, trigger := trigger, channel := channel, traffic := traffic } :=
  ⟨rfl, rfl, rfl, rfl, rfl, request, fun _ => rfl, fun _ => rfl, fun h => absurd rfl h⟩

theorem stepUplink_cases (held : HoldsWhatItRead s) (h : s.stepUplink c obey = some s') :
    TaskStep c .uplink s s' ∧ Beside .uplink s s' ∧ HoldsWhatItRead s' := by
  rw [stepUplink] at h
  cases hw : s.uplink with
  | unborn | finished => simp [hw] at h
  | reporting cause =>
      have before : s.status .uplink = .reporting cause := by simp [status, hw, Worker.sketch]
      simp only [hw, Option.map_eq_some_iff] at h
      obtain ⟨s₁, hpost, rfl⟩ := h
      obtain ⟨room, rfl⟩ := post?_eq_some hpost
      refine ⟨.report before rfl room rfl rfl, beside_uplink, ?_⟩
      intro p hp
      cases hp
  | running l =>
      have before : s.status .uplink = .running () := by simp [status, hw, Worker.sketch]
      simp only [hw, Option.map_eq_some_iff] at h
      obtain ⟨⟨l', t'⟩, hstep, rfl⟩ := h
      obtain ⟨step, held'⟩ := Relay.uplinkStep_cases (fun r => s.trigger.request? = some r)
        (s.listener = .running .fresh ∧ s.trigger.taken = true)
        (fun p hp => held p (by rw [hw, hp])) hstep
      refine ⟨taskStep_of_loopStep (fun _ => rfl) before rfl rfl step, beside_uplink, ?_⟩
      intro p hp
      refine held' p ?_
      cases l' with
      | ended e => cases e <;> cases hp
      | waiting | stuck => cases hp
      | holding q =>
          cases hp
          rfl

theorem stepDownlink_cases (h : s.stepDownlink c obey = some s') :
    TaskStep c .downlink s s' ∧ Beside .downlink s s' := by
  rw [stepDownlink] at h
  cases hw : s.downlink with
  | unborn | finished => simp [hw] at h
  | reporting cause =>
      have before : s.status .downlink = .reporting cause := by simp [status, hw, Worker.sketch]
      simp only [hw, Option.map_eq_some_iff] at h
      obtain ⟨s₁, hpost, rfl⟩ := h
      obtain ⟨room, rfl⟩ := post?_eq_some hpost
      exact ⟨.report before rfl room rfl rfl, beside_downlink⟩
  | running l =>
      have before : s.status .downlink = .running () := by simp [status, hw, Worker.sketch]
      simp only [hw, Option.map_eq_some_iff] at h
      obtain ⟨⟨l', t'⟩, hstep, rfl⟩ := h
      have step := Relay.downlinkStep_cases (fun r => s.trigger.request? = some r)
        (s.listener = .running .fresh ∧ s.trigger.taken = true) hstep
      exact ⟨taskStep_of_loopStep (fun _ => rfl) before rfl rfl step, beside_downlink⟩

theorem stepListener_cases (h : s.stepListener obey = some s') :
    TaskStep c .listener s s' ∧ Beside .listener s s' ∧
      s'.listener ≠ .unborn ∧ s'.listener ≠ .running .fresh := by
  rw [stepListener] at h
  cases hw : s.listener with
  | unborn | finished => simp [hw] at h
  | reporting cause =>
      have before : s.status .listener = .reporting cause := by simp [status, hw, Worker.sketch]
      simp only [hw, Option.map_eq_some_iff] at h
      obtain ⟨s₁, hpost, rfl⟩ := h
      obtain ⟨room, rfl⟩ := post?_eq_some hpost
      exact ⟨.report before rfl room rfl rfl, beside_listener rfl, by simp, by simp⟩
  | running l =>
      have before : s.status .listener = .running () := by simp [status, hw, Worker.sketch]
      have stops : (s.told.contains .listener && obey) = true → Role.listener ∈ s.told := by
        intro both
        simpa using (Bool.and_eq_true_iff.mp both).1
      cases l with
      | fresh =>
          simp only [hw] at h
          split at h
          · rename_i both
            cases h
            exact ⟨.stop before rfl (stops both) rfl rfl, beside_listener rfl, by simp, by simp⟩
          · cases htake : s.trigger.take with
            | ok trigger =>
                simp only [htake] at h
                cases h
                rw [Trigger.take] at htake
                split at htake
                · cases htake
                · cases htake
                  exact ⟨.work before rfl (World.Relayed.refl _) rfl, beside_listener rfl, by simp,
                    by simp⟩
            | error e =>
                simp only [htake] at h
                cases h
                rw [Trigger.take] at htake
                split at htake
                · rename_i taken
                  cases htake
                  exact ⟨.meet before rfl rfl (.consumed ⟨hw, taken⟩) (World.Relayed.refl _) rfl,
                    beside_listener rfl, by simp, by simp⟩
                · cases htake
      | waiting =>
          simp only [hw] at h
          cases hrequest : s.trigger.request? with
          | none =>
              simp only [hrequest] at h
              split at h
              · rename_i obeyed
                cases h
                exact ⟨.stop before rfl (by simpa using obeyed) rfl rfl, beside_listener rfl,
                  by simp, by simp⟩
              · cases h
          | some r =>
              simp only [hrequest] at h
              split at h
              · rename_i both
                cases h
                exact ⟨.stop before rfl (stops both) rfl rfl, beside_listener rfl, by simp,
                  by simp⟩
              · cases h
                exact ⟨.meet before rfl rfl (.request hrequest) (World.Relayed.refl _) rfl,
                  beside_listener rfl, by simp, by simp⟩

theorem Beside.unspent {role : Role} (h : Beside role s s') (hr : role ≠ .listener)
    {taken : Bool} (unspent : Unspent taken s) : Unspent taken s' := by
  rw [Unspent, (h.listener hr).1, (h.listener hr).2]
  exact unspent

theorem stepRole_cases {role : Role} (held : HoldsWhatItRead s)
    (h : s.stepRole c role obey = some s') :
    TaskStep c role s s' ∧ Beside role s s' ∧ HoldsWhatItRead s' ∧
      ∀ taken, Unspent taken s → Unspent taken s' := by
  cases role with
  | uplink =>
      obtain ⟨step, beside, held'⟩ := stepUplink_cases held h
      exact ⟨step, beside, held', fun _ => beside.unspent (by simp)⟩
  | downlink =>
      obtain ⟨step, beside⟩ := stepDownlink_cases h
      obtain ⟨es, hes, -⟩ := step.events
      exact ⟨step, beside, held.mono (beside.uplink (by simp)) (by simp [hes]),
        fun _ => beside.unspent (by simp)⟩
  | listener =>
      obtain ⟨step, beside, born, waiting⟩ := stepListener_cases h
      obtain ⟨es, hes, -⟩ := step.events
      refine ⟨step, beside, held.mono (beside.uplink (by simp)) (by simp [hes]), ?_⟩
      rintro taken - (hunborn | hfresh)
      · exact absurd hunborn born
      · exact absurd hfresh waiting

/-! ## The coordinator -/

/-- What one step of the coordinator can be. -/
inductive CoordinatorStep (c : Setup) (s s' : Session) : Prop
  | settle {h : Handshake} {outcome : Except ClientError Tunnel} {w : World}
      (state : s.coordinator = .handshaking h) (turn : Handshake.Turn c s.world outcome w)
      (eq : s' = (s.withWorld w).conclude outcome)
  | receive {t : Tunnel} {cause : Cause} {rest : List Cause} (state : s.coordinator = .awaiting t)
      (queue : s.channel = cause :: rest)
      (eq : s' = { s with channel := rest }.beginTeardown t cause)
  | despair {t : Tunnel} (state : s.coordinator = .awaiting t) (queue : s.channel = [])
      (halted : ∀ role, s.status role = .finished) (eq : s' = s.beginTeardown t .aborted)
  | join {t : Tunnel} {cause : Cause} {role : Role} {deadline : Nat}
      (state : s.coordinator = .joining t cause role deadline) (halted : s.status role = .finished)
      (eq : s' = s.joinNext t cause role)
  | abandon {t : Tunnel} {cause : Cause} {role : Role} {deadline : Nat}
      (state : s.coordinator = .joining t cause role deadline)
      (eq : s' = (s.abandon role).joinNext t cause role)

private theorem sketch_of_isOver {σ : Type} {w : Worker σ} (h : w.isOver = true) :
    w.sketch = .finished := by
  cases w with
  | finished => rfl
  | unborn | running state | reporting cause => cases h

private theorem status_of_isOver {role : Role} (h : s.isOver role = true) :
    s.status role = .finished := by
  cases role <;> exact sketch_of_isOver h

theorem stepCoordinator_cases (h : s.stepCoordinator c = some s') : CoordinatorStep c s s' := by
  rw [stepCoordinator] at h
  cases hc : s.coordinator with
  | fresh | finished outcome => simp [hc] at h
  | handshaking hs =>
      simp only [hc, Option.map_eq_some_iff] at h
      obtain ⟨⟨hs', w⟩, hstep, rfl⟩ := h
      obtain ⟨outcome, rfl, turn⟩ := Handshake.turn_of_step hstep
      exact .settle hc turn rfl
  | awaiting t =>
      simp only [hc] at h
      cases hq : s.channel with
      | cons cause rest =>
          simp only [hq, Option.some.injEq] at h
          exact .receive hc hq (by rw [hc]; exact h.symm)
      | nil =>
          simp only [hq] at h
          split at h
          · rename_i all
            simp only [Bool.and_eq_true] at all
            obtain ⟨⟨huplink, hdownlink⟩, hlistener⟩ := all
            refine .despair hc hq ?_ (Option.some.inj h).symm
            intro role
            cases role with
            | uplink => exact sketch_of_isOver huplink
            | downlink => exact sketch_of_isOver hdownlink
            | listener => exact sketch_of_isOver hlistener
          · cases h
  | joining t cause role deadline =>
      simp only [hc] at h
      split at h
      · rename_i halted
        exact .join hc (status_of_isOver halted) (Option.some.inj h).symm
      · split at h
        · exact .abandon hc (Option.some.inj h).symm
        · cases h

/-! ## What the coordinator makes of it -/

theorem enter_eq_ok {next : Phase} (h : s.phase.canBecome next = true) :
    s.enter next = .ok ({ s with phase := next }.record (.entered next)) := by
  rw [enter, Phase.become, if_pos h]

theorem conclude_error (phase : s.phase = .handshaking) (e : ClientError) :
    s.conclude (.error e) =
      ({ s with phase := .closed, coordinator := .finished (.error e) }.withWorld
        (s.world.record (.entered .closed)).closeSocket) := by
  have possible : s.phase.canBecome .closed = true := by rw [phase]; rfl
  simp only [conclude, enter_eq_ok possible]
  rfl

theorem conclude_ok (phase : s.phase = .handshaking) (t : Tunnel) :
    s.conclude (.ok t) =
      ({ s with phase := .established, coordinator := .awaiting t }.spawn.record
        (.entered .established)) := by
  have possible : s.phase.canBecome .established = true := by rw [phase]; rfl
  simp only [conclude, enter_eq_ok possible]
  rfl

theorem beginTeardown_eq (phase : s.phase = .established) (t : Tunnel) (cause : Cause) :
    s.beginTeardown t cause =
      { (s.record (.entered .terminating)).record .broadcast with
        phase := .terminating
        told := s.subscribers
        coordinator := .joining t cause .uplink (s.world.clock + joinTimeout) } := by
  have possible : s.phase.canBecome .terminating = true := by rw [phase]; rfl
  simp only [beginTeardown, enter_eq_ok possible]
  rfl

theorem endTeardown_eq (phase : s.phase = .terminating) (t : Tunnel) (cause : Cause) :
    s.endTeardown t cause =
      let undone := Detour.restore World.router t.snapshot s.world.bringDown.closeSocket
      ({ s with
        phase := .closed
        coordinator := .finished (.ok ⟨t.address, cause, undone.1, s.traffic.stats⟩) }.withWorld
          (undone.2.record (.entered .closed))) := by
  have possible : s.phase.canBecome .closed = true := by rw [phase]; rfl
  simp only [endTeardown]
  rw [enter_eq_ok (by exact possible)]
  rfl

end Session

end TunnelClient
