import TunnelClient.Proofs.Session.Startup

/-!
# Classes of errors

What the class of an error tells.  Each call that a startup makes fails with errors of its own
classes, so the class of the error that ends it says which calls had been made before.
-/

namespace TunnelClient

/-! ## Classes -/

inductive ErrorClass where
  | network
  | protocol
  | crypto
  | device
  | config
  deriving DecidableEq, Repr

def HostErrorKind.class? : HostErrorKind → Option ErrorClass
  | network => some .network
  | device => some .device
  | route | config => some .config
  | system => none

namespace ClientError

def belongs (e : ClientError) : ErrorClass → Bool
  | .network => e.isNetwork
  | .protocol => e.isProtocol
  | .crypto => e.isCrypto
  | .device => e.isDevice
  | .config => e.isConfig

def class? : ClientError → Option ErrorClass
  | configLoad _ _ | configInvalid _ _ => some .config
  | resolve _ _ | handshakeTimeout _ => some .network
  | invalidState _ _ | signal _ => none
  | ofWire error => some (if error.isCrypto then .crypto else .protocol)
  | ofHost error => error.kind.class?

theorem belongs_iff {e : ClientError} {k : ErrorClass} :
    e.belongs k = true ↔ e.class? = some k := by
  cases e with
  | ofWire error =>
      cases error <;> cases k <;>
        simp [belongs, isNetwork, isProtocol, isCrypto, isDevice, isConfig, class?,
          WireError.isProtocol, WireError.isFormat, WireError.isCrypto]
  | ofHost error =>
      cases kind : error.kind <;> cases k <;>
        simp [belongs, isNetwork, isProtocol, isCrypto, isDevice, isConfig, class?, kind,
          HostErrorKind.class?]
  | _ => cases k <;> simp [belongs, isNetwork, isProtocol, isCrypto, isDevice, isConfig, class?]

private theorem class?_ofHost {fault : HostError} {kind : HostErrorKind} (h : fault.kind = kind) :
    (ofHost fault).class? = kind.class? :=
  congrArg HostErrorKind.class? h

end ClientError

/-! ## The errors of each call -/

section Calls

variable {fault : HostError} {peer tunnel : Ipv4} {σ : Type} {R : Router σ}

theorem Socket.kind_of_poll? {s s' : Socket} (h : s.poll? = some (.error fault, s')) :
    fault.kind = .network := by
  rw [poll?] at h
  split at h
  · cases h
    rfl
  · split at h
    · cases h
      rfl
    · split at h <;> cases h

theorem Socket.kind_of_send {s s' : Socket} {peer : Endpoint}
    (h : s.send peer = (.failed fault, s')) : fault.kind = .network := by
  rw [send] at h
  split at h
  · cases h
    rfl
  · split at h
    · cases h
      rfl
    · split_ifs at h <;> cases h

theorem DeviceSettings.kind_of_validate {s : DeviceSettings} (h : s.validate = .error fault) :
    fault.kind = .config := by
  simp only [validate] at h
  split_ifs at h <;> cases h <;> rfl

theorem DeviceProvider.kind_of_create {s : DeviceSettings} {p p' : DeviceProvider}
    (h : p.create s = (.error fault, p')) : fault.kind = .config ∨ fault.kind = .device := by
  rw [create] at h
  split at h
  · rename_i invalid
    cases h
    exact .inl (DeviceSettings.kind_of_validate invalid)
  · split at h
    · cases h
      exact .inr rfl
    · cases h

theorem RouteTable.kind_of_readDefault {t : RouteTable} (h : t.readDefault = .error fault) :
    fault.kind = .route := by
  rw [readDefault] at h
  split at h <;> cases h
  rfl

theorem RouteTable.kind_of_changed {t t' : RouteTable} {c : RouteChange}
    (h : t.changed c = (.error fault, t')) : fault.kind = .route := by
  rw [changed] at h
  split at h
  · cases h
  · rename_i refused
    cases h
    cases c with
    | setDefault gateway | setHost gateway host =>
        simp only [change] at refused
        split at refused <;> cases refused
        rfl
    | clearDefault | clearHost host => cases refused

theorem FaultyRoutes.kind_of_fault? {r : FaultyRoutes} {kind : RouteKind} {dump : String}
    (h : r.fault? kind dump = some fault) : fault.kind = .route := by
  simp only [fault?] at h
  split_ifs at h <;> cases h <;> rfl

private theorem Detour.error_of_install {s s' : σ} {Q : HostError → Prop}
    (read : ∀ {e s s'}, R.read s = (.error e, s') → Q e)
    (change : ∀ {c e s s'}, R.change c s = (.error e, s') → Q e)
    (h : install R peer tunnel s = (.error fault, s')) : Q fault := by
  cases installation_of_eq h with
  | unread failed => exact read failed
  | unpinned _ failed => exact change failed
  | uncleared _ _ failed => exact change failed
  | unset _ _ _ failed => exact change failed

end Calls

namespace World

variable {w w' : World} {fault : HostError}

theorem kind_of_receive? (h : w.receive? = some (.error fault, w')) : fault.kind = .network := by
  rw [receive?] at h
  split at h
  · cases h
  · cases h
  · rename_i polled
    cases h
    exact Socket.kind_of_poll? polled

theorem kind_of_send {c : Setup} {d : Datagram} (h : w.send c d = (.failed fault, w')) :
    fault.kind = .network := by
  rw [send] at h
  cases hs : w.socket.send c.peer with
  | mk result socket =>
      rw [hs] at h
      cases result with
      | done | hangs => cases h
      | failed e =>
          cases h
          exact Socket.kind_of_send hs

theorem kind_of_createDevice {s : DeviceSettings} (h : w.createDevice s = (.error fault, w')) :
    fault.kind = .config ∨ fault.kind = .device := by
  rw [createDevice] at h
  split at h
  · cases h
  · rename_i refused
    cases h
    exact DeviceProvider.kind_of_create refused

theorem kind_of_bringUp (h : w.bringUp = (.error fault, w')) : fault.kind = .device := by
  rw [bringUp] at h
  split at h <;> cases h
  rfl

theorem kind_of_readRoute (h : w.readRoute = (.error fault, w')) : fault.kind = .route := by
  rw [readRoute_eq, Prod.mk.injEq, FaultyRoutes.read] at h
  split at h
  · rename_i refused
    cases h.1
    exact FaultyRoutes.kind_of_fault? refused
  · exact RouteTable.kind_of_readDefault h.1

theorem kind_of_changeRoute {c : RouteChange} (h : w.changeRoute c = (.error fault, w')) :
    fault.kind = .route := by
  rw [changeRoute_eq, Prod.mk.injEq, FaultyRoutes.change] at h
  split at h
  · rename_i refused
    cases h.1
    exact FaultyRoutes.kind_of_fault? refused
  · exact RouteTable.kind_of_changed (Prod.ext h.1 rfl)

end World

/-! ## The errors of a handshake -/

namespace Handshake

variable {c : Setup} {w w' : World} {e : ClientError}

theorem class_of_peerIpv4 (h : peerIpv4 c = .error e) : ∃ k, e.class? = some k := by
  rw [peerIpv4] at h
  split at h
  · cases h
  · cases h
    exact ⟨_, rfl⟩

theorem class_of_start (h : start c w = (.finished (.error e), w')) :
    ∃ k, e.class? = some k := by
  rw [start] at h
  split at h
  · rename_i refused
    cases h
    exact class_of_peerIpv4 refused
  · split at h
    · cases h
      exact ⟨_, rfl⟩
    · split at h
      · cases h
      · rename_i failed
        cases h
        exact ⟨_, ClientError.class?_ofHost (World.kind_of_send failed)⟩
      · cases h

theorem kind_of_setUp {peer : Ipv4} {a : TunnelAddress} (h : setUp c peer a w = (.error e, w')) :
    ∃ fault, e = .ofHost fault ∧ (fault.kind = .route ∨
      (fault.kind = .config ∨ fault.kind = .device) ∧
        ∃ es, w'.events = w.events ++ es ∧ ∀ event ∈ es, event.routeCall? = none) := by
  rw [setUp] at h
  rcases World.createDevice_cases (c.device.withAddress a.inner) w with
    ⟨w₁, hcreate, -, -, -, events₁⟩ | ⟨fault, w₁, hcreate, -, -, -, events₁⟩
  · rw [hcreate] at h
    rcases World.bringUp_cases w₁ with
      ⟨w₂, hup, -⟩ | ⟨fault, w₂, hup, -, -, -, events₂⟩
    · simp only [hup] at h
      cases hinstall : Detour.install World.router peer a.gateway w₂ with
      | mk outcome w₃ =>
          simp only [hinstall] at h
          cases outcome with
          | ok snapshot => cases h
          | error fault =>
              cases h
              exact ⟨fault, rfl, .inl (Detour.error_of_install World.kind_of_readRoute
                World.kind_of_changeRoute hinstall)⟩
    · simp only [hup] at h
      cases h
      obtain ⟨-, -, -, outcome, lowered⟩ := World.bringDown_spec w₂
      refine ⟨fault, rfl, .inr ⟨.inr (World.kind_of_bringUp hup),
        [.created (c.device.withAddress a.inner) (.ok ()), .raised (.error fault),
          .lowered outcome], ?_, ?_⟩⟩
      · rw [lowered, events₂, events₁]
        simp
      · simp [Event.routeCall?]
  · rw [hcreate] at h
    cases h
    refine ⟨fault, rfl, .inr ⟨World.kind_of_createDevice hcreate, _, events₁, ?_⟩⟩
    simp [Event.routeCall?]

theorem class_of_step {h : Handshake} (hstep : h.step c w = some (.finished (.error e), w')) :
    (∃ k, e.class? = some k) ∧ World.Relayed w w' ∨
      ∃ peer a w₁, World.Relayed w w₁ ∧ setUp c peer a w₁ = (.error e, w') := by
  cases h with
  | stuck | finished outcome => cases hstep
  | waiting deadline =>
      rw [step] at hstep
      cases hreceive : w.receive? with
      | none =>
          rw [hreceive] at hstep
          simp only at hstep
          split at hstep
          · cases hstep
            exact .inl ⟨⟨_, rfl⟩, World.Relayed.refl w⟩
          · cases hstep
      | some received =>
          obtain ⟨outcome, w₁⟩ := received
          have relayed := (World.relayed_receive? hreceive).1
          rw [hreceive] at hstep
          cases outcome with
          | error fault =>
              cases hstep
              have network := World.kind_of_receive? hreceive
              exact .inl ⟨⟨_, ClientError.class?_ofHost network⟩, relayed⟩
          | ok reply =>
              have answered : answer c reply w₁ = (.error e, w') := by
                simp only [Option.some.injEq, Prod.mk.injEq, finished.injEq] at hstep
                exact Prod.ext hstep.1 hstep.2
              rw [answer] at answered
              split at answered
              · rename_i refused
                cases answered
                exact .inl ⟨class_of_peerIpv4 refused, relayed⟩
              · split at answered
                · cases answered
                  exact .inl ⟨⟨_, rfl⟩, relayed⟩
                · exact .inr ⟨_, _, w₁, relayed, answered⟩

end Handshake

/-! ## What the class tells -/

/-- What may have been done before an error of a class: nothing on the host, no call on the routing
table, or anything. -/
def ErrorClass.Reached (k : ErrorClass) (w : World) : Prop :=
  match k with
  | network | protocol | crypto => w.device = none ∧ ∀ event ∈ w.events, event.isHostWork = false
  | device => ∀ event ∈ w.events, event.routeCall? = none
  | config => True

/-- It has one class, and no more was done than that tells. -/
def ClientError.Tells (e : ClientError) (w : World) : Prop := ∃ k, e.class? = some k ∧ k.Reached w

private theorem Event.routeCall?_of_idle {event : Event} (idle : event.isHostWork = false) :
    event.routeCall? = none := by
  cases event with
  | route call => cases idle
  | _ => rfl

variable {c : Setup} {e : ClientError} {k : ErrorClass} {w w' : World}

private theorem ErrorClass.reached_of_idle (device : w.device = none)
    (idle : ∀ event ∈ w.events, event.isHostWork = false) (k : ErrorClass) : k.Reached w := by
  cases k with
  | network | protocol | crypto => exact ⟨device, idle⟩
  | device => exact fun event mem => Event.routeCall?_of_idle (idle event mem)
  | config => trivial

theorem ClientError.Tells.later (h : e.Tells w)
    (device : w'.device.map Device.standing = w.device.map Device.standing) {es : List Event}
    (events : w'.events = w.events ++ es) (idle : ∀ event ∈ es, event.isHostWork = false) :
    e.Tells w' := by
  obtain ⟨k, own, reached⟩ := h
  refine ⟨k, own, ?_⟩
  have both : ∀ {Q : Event → Prop}, (∀ event ∈ w.events, Q event) → (∀ event ∈ es, Q event) →
      ∀ event ∈ w'.events, Q event := by
    intro Q before after event mem
    rw [events, List.mem_append] at mem
    exact mem.elim (before event) (after event)
  cases k with
  | network | protocol | crypto =>
      refine ⟨?_, both reached.2 idle⟩
      rw [reached.1, Option.map_none, Option.map_eq_none_iff] at device
      exact device
  | device => exact both reached fun event mem => Event.routeCall?_of_idle (idle event mem)
  | config => trivial

namespace Session

variable {s : Session}

private theorem tells_conclude (phase : s.phase = .handshaking) (h : e.Tells w) :
    e.Tells ((s.withWorld w).conclude (.error e)).world := by
  obtain ⟨outcome, device, -, events⟩ := world_conclude_error phase w e
  exact h.later (congrArg _ device) events (by simp [Event.isHostWork])

theorem Shaking.idle_of_relayed (shaking : Shaking s) (relayed : World.Relayed s.world w) :
    ∀ event ∈ w.events, event.isHostWork = false := by
  refine Event.idle_of_milestones fun event mem => ?_
  rw [(shaking.of_relayed relayed).2, List.mem_singleton] at mem
  rw [mem]
  rfl

theorem Shaking.tells_of_relayed (shaking : Shaking s) (relayed : World.Relayed s.world w)
    (classified : ∃ k, e.class? = some k) : e.Tells w := by
  obtain ⟨k, own⟩ := classified
  exact ⟨k, own, k.reached_of_idle (shaking.of_relayed relayed).1 (shaking.idle_of_relayed relayed)⟩

theorem tells_step {h : Handshake} (shaking : Shaking s)
    (hstep : h.step c s.world = some (.finished (.error e), w)) : e.Tells w := by
  rcases Handshake.class_of_step hstep with ⟨classified, relayed⟩ | ⟨peer, a, w₁, relayed, hset⟩
  · exact shaking.tells_of_relayed relayed classified
  · obtain ⟨fault, rfl, route | ⟨config | device, es, events, unrouted⟩⟩ :=
      Handshake.kind_of_setUp hset
    · exact ⟨.config, ClientError.class?_ofHost route, trivial⟩
    · exact ⟨.config, ClientError.class?_ofHost config, trivial⟩
    · refine ⟨.device, ClientError.class?_ofHost device, fun event mem => ?_⟩
      rw [events, List.mem_append] at mem
      rcases mem with before | after
      · exact Event.routeCall?_of_idle (shaking.idle_of_relayed relayed event before)
      · exact unrouted event after

theorem tells_course {trigger : Trigger} {moves : List Move}
    (failed : (course c w trigger moves).coordinator = .finished (.error e)) :
    e.Tells (course c w trigger moves).world := by
  refine failed_course (P := ClientError.Tells) c w trigger ?_ ?_ ?_ failed
  · intro e s s' aside _ told
    obtain ⟨es, events, quiet, -⟩ := aside.events
    exact told.later aside.device events fun event mem =>
      Event.isHostWork_of_not_isMilestone (quiet event mem)
  · intro e w' hstart
    have relayed := (Handshake.start_spec c (opened w trigger).world).1
    rw [hstart] at relayed
    exact tells_conclude rfl ((shaking_opened w trigger).tells_of_relayed relayed
      (Handshake.class_of_start hstart))
  · intro front h e w' _ state hstep
    have shaking := (stage_handshaking state).mp (stage_course c w trigger front)
    exact tells_conclude shaking.phase (tells_step shaking hstep)

/-- Every session that returns an error: it has one of the five classes and no other, one of the
network, the protocol or the cryptography means that no device was created and no call made on the
routing table, one of the device that none was made on the table, and if one was made the error is
one of configuration. -/
theorem class_tells_progress {trigger : Trigger} {moves : List Move}
    (failed : (course c w trigger moves).coordinator = .finished (.error e)) :
    (∃! k, e.belongs k = true) ∧
      (e.isNetwork = true ∨ e.isProtocol = true ∨ e.isCrypto = true →
        (course c w trigger moves).world.device = none ∧
          ∀ event ∈ (course c w trigger moves).world.events, event.isHostWork = false) ∧
      (e.isDevice = true →
        ∀ event ∈ (course c w trigger moves).world.events, event.routeCall? = none) ∧
      ((∃ event ∈ (course c w trigger moves).world.events, event.routeCall? ≠ none) →
        e.isConfig = true) := by
  obtain ⟨k, own, reached⟩ := tells_course failed
  have only : ∀ k', e.belongs k' = true → k' = k := fun k' belongs =>
    Option.some.inj ((ClientError.belongs_iff.mp belongs).symm.trans own)
  have belongs : e.belongs k = true := ClientError.belongs_iff.mpr own
  refine ⟨⟨k, belongs, only⟩, ?_, ?_, ?_⟩
  · rintro (network | protocol | crypto)
    · obtain rfl := only .network network
      exact reached
    · obtain rfl := only .protocol protocol
      exact reached
    · obtain rfl := only .crypto crypto
      exact reached
  · intro device
    obtain rfl := only .device device
    exact reached
  · rintro ⟨event, mem, called⟩
    cases k with
    | network | protocol | crypto =>
        exact absurd (Event.routeCall?_of_idle (reached.2 event mem)) called
    | device => exact absurd (reached event mem) called
    | config => exact belongs

theorem class_trial : ∃ e,
    (course Trial.setup Trial.refusing {} Trial.opening).coordinator = .finished (.error e) ∧
      e.isConfig = true := by
  have ended : (course Trial.setup Trial.refusing {} Trial.opening).phase = .closed ∧
      address? (course Trial.setup Trial.refusing {} Trial.opening).coordinator = none ∧
      ∃ event ∈ (course Trial.setup Trial.refusing {} Trial.opening).world.events,
        event.routeCall? ≠ none := by
    decide +kernel
  obtain ⟨closed, none, called⟩ := ended
  obtain ⟨outcome, finished⟩ := finished_of_closed (stage_course ..) closed
  cases outcome with
  | ok report =>
      rw [finished] at none
      cases none
  | error e => exact ⟨e, finished, (class_tells_progress finished).2.2.2 called⟩

end Session

end TunnelClient
