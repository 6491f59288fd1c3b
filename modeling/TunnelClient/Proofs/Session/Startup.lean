import TunnelClient.Proofs.Relay.Flow
import TunnelClient.Proofs.Route.Journal
import TunnelClient.Proofs.Session.Restoration

/-!
# Startups that fail

What a startup that fails leaves behind.  Each of its steps undoes those before it, and
no single refusal of the routing table keeps the undoing from being complete.
-/

namespace TunnelClient

/-! ## Refusals -/

def Event.isRefusal : Event → Bool
  | .route (.read _ (.error e)) | .route (.change _ _ (.error e)) => e.isRefusal
  | _ => false

private theorem Event.isRefusal_route (event : RouteEvent) :
    (Event.route event).isRefusal = event.isRefusal := by
  cases event with
  | read reached outcome => cases outcome <;> rfl
  | change reached c outcome => cases outcome <;> rfl

private theorem Event.uncounted_of_idle {es : List Event} (idle : ∀ e ∈ es, e.isHostWork = false) :
    es.countP isOpening = 0 ∧ es.countP isRefusal = 0 := by
  rw [List.countP_eq_zero, List.countP_eq_zero]
  constructor
  · intro e he
    have := idle e he
    cases e <;> simp_all [isOpening, isHostWork]
  · intro e he
    have := idle e he
    cases e <;> simp_all [isRefusal, isHostWork]

namespace World

def refusals (w : World) : Nat := w.events.countP Event.isRefusal

def openings (w : World) : Nat := w.events.countP Event.isOpening

variable {w w' : World}

private theorem refusals_of_events {e : Event} (h : w'.events = w.events ++ [e]) :
    w'.refusals = w.refusals + if e.isRefusal then 1 else 0 := by
  rw [refusals, h, List.countP_append, List.countP_singleton]
  rfl

theorem serves_router : router.Serves (fun w => w.routes.table) refusals := by
  apply Router.serves_of_counting World.routes
  · intro w
    refine ⟨rfl, rfl, ?_⟩
    rw [← Event.isRefusal_route]
    exact refusals_of_events rfl
  · intro c w
    refine ⟨rfl, rfl, ?_⟩
    rw [← Event.isRefusal_route]
    exact refusals_of_events rfl

private theorem bringDown_counts (w : World) :
    w.bringDown.refusals = w.refusals ∧ w.bringDown.openings = w.openings := by
  obtain ⟨-, -, -, outcome, events⟩ := bringDown_spec w
  simp [refusals, openings, events, Event.isRefusal, Event.isOpening]

private theorem table_bringDown {d : Device} (held : w.device = some d)
    (apart : d.up = true → w.routes.table.linkDown d.settings.address
      d.settings.prefixLength.toNat = w.routes.table) :
    w.bringDown.routes.table = w.routes.table := by
  obtain ⟨-, -, routes, -⟩ := bringDown_spec w
  rw [held] at routes
  rw [routes]
  simp only
  split
  · change d.routesAfterDown w.routes.table = w.routes.table
    rw [Device.routesAfterDown]
    split
    · rename_i up
      exact apart up
    · rfl
  · rfl

private theorem openings_install (peer tunnel : Ipv4) (w : World) :
    (Detour.install router peer tunnel w).2.openings = w.openings := by
  refine Detour.install_keeps (P := fun w' : World => w'.openings = w.openings) ?_ ?_ peer tunnel
    rfl
  · intro w' h
    change (w'.events ++ [Event.route _]).countP Event.isOpening = _
    rw [List.countP_append]
    exact h
  · intro c w' h
    change (w'.events ++ [Event.route _]).countP Event.isOpening = _
    rw [List.countP_append]
    exact h

end World

/-- No gateway of a table, be it that of a host or the default one, lies in the network of a granted
address. -/
structure Setup.Beyond (c : Setup) (a : TunnelAddress) (table : RouteTable) : Prop where
  default : ∀ gateway, table.default = some gateway →
    a.inner.sameNetwork c.device.prefixLength.toNat gateway = false
  hosts : c.Apart a table

theorem Setup.Beyond.linkDown {c : Setup} {a : TunnelAddress} {table : RouteTable}
    (beyond : c.Beyond a table) :
    table.linkDown a.inner c.device.prefixLength.toNat = table := by
  have default : (table.default.filter fun gateway =>
      !a.inner.sameNetwork c.device.prefixLength.toNat gateway) = table.default := by
    cases hd : table.default with
    | none => rfl
    | some gateway => simp [Option.filter, beyond.default gateway hd]
  have hosts : (table.hosts.filter fun entry =>
      !a.inner.sameNetwork c.device.prefixLength.toNat entry.2) = table.hosts := by
    rw [List.filter_eq_self]
    intro entry hentry
    simp [beyond.hosts entry hentry]
  rw [RouteTable.linkDown, default, hosts]

/-! ## Set-ups that fail -/

namespace Handshake

variable {c : Setup} {peer : Ipv4} {a : TunnelAddress} {w w' : World}

theorem Collapse.table (h : Collapse c peer a w w') (beyond : c.Beyond a w.routes.table)
    (once : w'.refusals ≤ w.refusals + 1) : w'.routes.table = w.routes.table := by
  cases h with
  | uncreated device socket routes => rw [routes]
  | unraised device socket routes =>
      rw [World.table_bringDown device (fun up => nomatch up), routes]
  | @undirected e w₁ w₂ device socket routes events install =>
      have frame := World.rerouted_install peer a.gateway w₁
      rw [install] at frame
      have unrefused : w₁.refusals = w.refusals := by
        simp [World.refusals, events, Event.isRefusal]
      rw [(World.bringDown_counts w₂).1, ← unrefused] at once
      have table := Detour.table_of_install_eq_error World.serves_router install once
      simp only [routes] at table
      rw [← table] at beyond
      rw [World.table_bringDown (frame.device.trans device) fun _ => beyond.linkDown, table]

private theorem Collapse.openings (h : Collapse c peer a w w') (vacant : w.device = none) :
    w'.openings = w.openings + w'.device.toList.length := by
  cases h with
  | uncreated device socket routes events =>
      rw [device, vacant, World.openings, events]
      simp [World.openings, Event.isOpening]
  | @unraised e w₁ device socket routes events =>
      rw [(World.bringDown_counts w₁).2, (World.bringDown_spec w₁).1, device, World.openings,
        events]
      simp [World.openings, List.countP_cons, Event.isOpening]
  | @undirected e w₁ w₂ device socket routes events install =>
      have frame := World.rerouted_install peer a.gateway w₁
      have openings := World.openings_install peer a.gateway w₁
      rw [install] at frame openings
      rw [(World.bringDown_counts w₂).2, (World.bringDown_spec w₂).1, frame.device, device,
        openings, World.openings, events]
      simp [World.openings, List.countP_cons, Event.isOpening]

end Handshake

/-! ## Startups that fail -/

namespace World

/-- Every device opened is at hand, and the table is the initial one if its gateways are beyond the
network that was granted and no more than one call was refused. -/
structure Unwound (c : Setup) (initial : RouteTable) (w : World) : Prop where
  openings : w.openings = w.device.toList.length
  table : (∀ a, Session.Granted c a w.events → c.Beyond a initial) → w.refusals ≤ 1 →
    w.routes.table = initial

variable {c : Setup} {initial : RouteTable} {w w' : World}

theorem Unwound.later (h : Unwound c initial w)
    (device : w'.device.map Device.standing = w.device.map Device.standing)
    (table : w'.routes.table = w.routes.table) {es : List Event}
    (events : w'.events = w.events ++ es) (idle : ∀ e ∈ es, e.isHostWork = false) :
    Unwound c initial w' := by
  obtain ⟨unopened, unrefused⟩ := Event.uncounted_of_idle idle
  have openings : w'.openings = w.openings := by
    rw [World.openings, events, List.countP_append, unopened]
    rfl
  have refusals : w'.refusals = w.refusals := by
    rw [World.refusals, events, List.countP_append, unrefused]
    rfl
  have count : w'.device.toList.length = w.device.toList.length := by
    have length : ∀ d : Option Device, (d.map Device.standing).toList.length = d.toList.length := by
      rintro (_ | d) <;> rfl
    rw [← length, device, length]
  constructor
  · rw [openings, count]
    exact h.openings
  · intro beyond once
    rw [table]
    refine h.table (fun a granted => beyond a ?_) (refusals ▸ once)
    rw [events]
    exact granted.append es

theorem Unwound.relayed (h : Unwound c initial w) (relayed : Relayed w w') :
    Unwound c initial w' := by
  obtain ⟨es, events, traffic⟩ := relayed.events
  exact h.later relayed.device (congrArg FaultyRoutes.table relayed.routes) events fun e he =>
    Event.isHostWork_of_isTraffic (traffic e he)

end World

namespace Session

variable {c : Setup} {s : Session} {w : World} {initial : RouteTable}

theorem Shaking.unwound (h : Shaking s) (table : s.world.routes.table = initial) :
    s.world.refusals = 0 ∧ s.world.openings = 0 ∧ World.Unwound c initial s.world := by
  obtain ⟨unopened, unrefused⟩ := Event.uncounted_of_idle h.idle
  refine ⟨unrefused, unopened, unopened.trans ?_, fun _ _ => table⟩
  rw [h.device]
  rfl

theorem world_conclude_error (phase : s.phase = .handshaking) (w : World) (e : ClientError) :
    ∃ outcome, ((s.withWorld w).conclude (.error e)).world.device = w.device ∧
      ((s.withWorld w).conclude (.error e)).world.routes = w.routes ∧
      ((s.withWorld w).conclude (.error e)).world.events =
        w.events ++ [.entered .closed, .closed outcome] := by
  obtain ⟨-, device, routes, outcome, events⟩ :=
    World.closeSocket_spec (w.record (Event.entered .closed))
  rw [conclude_error (s := s.withWorld w) phase]
  refine ⟨outcome, device, routes, events.trans ?_⟩
  simp [World.record]

private theorem unwound_conclude_error {e : ClientError} (phase : s.phase = .handshaking)
    (h : World.Unwound c initial w) :
    World.Unwound c initial ((s.withWorld w).conclude (.error e)).world := by
  obtain ⟨outcome, device, routes, events⟩ := world_conclude_error phase w e
  exact h.later (congrArg _ device) (congrArg FaultyRoutes.table routes) events
    (by simp [Event.isHostWork])

theorem unwound_step {h : Handshake} {e : ClientError} (shaking : Shaking s)
    (table : s.world.routes.table = initial)
    (hstep : h.step c s.world = some (.finished (.error e), w)) : World.Unwound c initial w := by
  obtain ⟨unrefused, unopened, unwound⟩ := shaking.unwound (c := c) table
  obtain ⟨outcome, ⟨⟩, ⟨-, -, -, relayed⟩ |
    ⟨reply, a, peer, w₁, relayed, received, grant, -, hset⟩⟩ := Handshake.step_cases hstep
  · exact unwound.relayed relayed
  · have collapse := (Handshake.collapse_of_setUp hset).2
    obtain ⟨vacant, -⟩ := shaking.of_relayed relayed
    have refusals : w₁.refusals = 0 := by
      rw [World.refusals_of_events received, unrefused]
      rfl
    have openings : w₁.openings = 0 := by
      rw [World.openings, received, List.countP_append]
      exact congrArg (· + _) unopened
    constructor
    · rw [collapse.openings vacant, openings, Nat.zero_add]
    · intro beyond once
      obtain ⟨es, events, -⟩ := collapse.worked.events
      have granted : Granted c a w.events := by
        rw [events, received]
        exact (shaking.granted grant).append es
      have same : w₁.routes.table = initial :=
        (congrArg FaultyRoutes.table relayed.routes).trans table
      rw [collapse.table (same.symm ▸ beyond a granted) (by omega), same]

/-! ## Failed sessions -/

def Unwinding (c : Setup) (initial : RouteTable) (s : Session) : Prop :=
  ∀ e, s.coordinator = .finished (.error e) → World.Unwound c initial s.world

theorem failed_coordinator {e : ClientError} (stage : Stage c s) (held : HoldsWhatItRead s)
    (failed : (s.move c .coordinator).coordinator = .finished (.error e)) :
    s.move c .coordinator = s ∨ ∃ h w, s.coordinator = .handshaking h ∧
      h.step c s.world = some (.finished (.error e), w) ∧
      s.move c .coordinator = (s.withWorld w).conclude (.error e) := by
  cases state : s.coordinator with
  | fresh | finished outcome =>
      rw [move, stepCoordinator, state]
      exact .inl rfl
  | awaiting t | joining t cause role deadline =>
      -- An established session never fails any more.
      have granted := address?_run (a := t.address) stage held (by rw [state]; rfl) [.coordinator]
      change address? (s.move c .coordinator).coordinator = _ at granted
      rw [failed] at granted
      cases granted
  | handshaking h =>
      have shaking := (stage_handshaking state).mp stage
      rw [move, stepCoordinator, state] at failed ⊢
      simp only at failed ⊢
      cases hstep : h.step c s.world with
      | none => exact .inl rfl
      | some next =>
          obtain ⟨h', w⟩ := next
          obtain ⟨outcome, rfl, -⟩ := Handshake.turn_of_step hstep
          rw [hstep, Option.map_some, Option.getD_some] at failed
          rw [Option.map_some, Option.getD_some]
          cases outcome with
          | ok t =>
              rw [afterHandshake, conclude_ok (s := s.withWorld w) shaking.phase] at failed
              cases failed
          | error e' =>
              rw [afterHandshake, conclude_error (s := s.withWorld w) shaking.phase] at failed
              cases failed
              exact .inr ⟨h, w, rfl, hstep, rfl⟩

/-- What is so of the world when the handshake fails, and stays so while others have their turn, is
so of every session that has failed. -/
theorem failed_course {P : ClientError → World → Prop} (c : Setup) (w : World) (trigger : Trigger)
    {moves : List Move}
    (past : ∀ {e s s'}, Aside s s' → (s'.world.routes.table = s.world.routes.table ∨
      ∃ m ∈ moves, m.editsTable = true) → P e s.world → P e s'.world)
    (started : ∀ {e w'}, Handshake.start c (opened w trigger).world = (.finished (.error e), w') →
      P e (((opened w trigger).withWorld w').conclude (.error e)).world)
    (stepped : ∀ {front h e w'}, front <+: moves →
      (course c w trigger front).coordinator = .handshaking h →
      h.step c (course c w trigger front).world = some (.finished (.error e), w') →
      P e (((course c w trigger front).withWorld w').conclude (.error e)).world)
    {e : ClientError} (failed : (course c w trigger moves).coordinator = .finished (.error e)) :
    P e (course c w trigger moves).world := by
  induction moves using List.reverseRecOn generalizing e with
  | nil =>
      change (begun c w trigger).coordinator = _ at failed
      change P e (begun c w trigger).world
      cases hstart : Handshake.start c (opened w trigger).world with
      | mk h w' =>
          rw [begun_eq, hstart] at failed ⊢
          cases h with
          | waiting deadline => cases failed
          | stuck => cases failed
          | finished outcome =>
              cases outcome with
              | ok t =>
                  rw [afterHandshake, conclude_ok (by rfl)] at failed
                  cases failed
              | error e' =>
                  rw [afterHandshake, conclude_error (by rfl)] at failed
                  cases failed
                  exact started hstart
  | append_singleton moves m ih =>
      have before := @ih
        (fun aside table => past aside
          (table.imp_right (Exists.imp fun _ => And.imp_left (List.mem_append_left _))))
        (fun front => stepped (front.trans (List.prefix_append ..)))
      have stage := stage_course c w trigger moves
      have held := holds_course c w trigger moves
      rw [course_append] at failed ⊢
      change ((course c w trigger moves).move c m).coordinator = _ at failed
      change P e ((course c w trigger moves).move c m).world
      have step := (move_cases stage held m).1
      generalize moved : (course c w trigger moves).move c m = s' at step failed
      cases step with
      | idle inner same =>
          rw [same] at failed ⊢
          exact before failed
      | @feel x eq =>
          have aside := aside_of_feel x (course c w trigger moves)
          rw [eq] at failed ⊢
          rw [aside.coordinator] at failed
          refine past aside ?_ (before failed)
          cases edits : (Move.stimulus x).editsTable with
          | true => exact .inr ⟨_, List.mem_append_right _ (List.mem_singleton_self _), edits⟩
          | false =>
              obtain ⟨-, -, -, -, -, -, -, -, -, hworld⟩ :=
                feel_frame x (course c w trigger moves)
              rw [hworld]
              exact .inl (World.table_feel edits _)
      | task step beside =>
          have aside := aside_of_taskStep step beside
          rw [aside.coordinator] at failed
          exact past aside (.inl (congrArg FaultyRoutes.table step.routes)) (before failed)
      | oversee =>
          rw [← moved] at failed ⊢
          rcases failed_coordinator stage held failed with still | ⟨h, w', state, hstep, eq⟩
          · rw [still] at failed ⊢
            exact before failed
          · rw [eq]
            exact stepped (List.prefix_append ..) state hstep

theorem unwinding_course (c : Setup) (w : World) (trigger : Trigger) {moves : List Move}
    (alone : ∀ m ∈ moves, m.editsTable = false) :
    Unwinding c w.routes.table (course c w trigger moves) := by
  intro e failed
  refine failed_course (P := fun _ => World.Unwound c w.routes.table) c w trigger ?_ ?_ ?_ failed
  · rintro e s s' aside (table | ⟨m, mem, edits⟩) unwound
    · obtain ⟨es, events, quiet, -⟩ := aside.events
      exact unwound.later aside.device table events fun e he =>
        Event.isHostWork_of_not_isMilestone (quiet e he)
    · rw [alone m mem] at edits
      cases edits
  · intro e w' hstart
    have relayed := (Handshake.start_spec c (opened w trigger).world).1
    rw [hstart] at relayed
    have unwound : World.Unwound c w.routes.table (opened w trigger).world :=
      ((shaking_opened w trigger).unwound rfl).2.2
    exact unwound_conclude_error rfl (unwound.relayed relayed)
  · intro front h e w' before state hstep
    have shaking := (stage_handshaking state).mp (stage_course c w trigger front)
    have routed := routed_course c w trigger fun m mem => alone m (before.subset mem)
    have table : (course c w trigger front).world.routes.table = w.routes.table := by
      rwa [Routed, state] at routed
    exact unwound_conclude_error shaking.phase (unwound_step shaking table hstep)

/-- What a startup that failed has left behind: no route, no device but one that was opened and
brought down once, and no open socket. -/
structure Undone (initial : RouteTable) (s : Session) : Prop where
  table : s.world.routes.table = initial
  opened : s.world.openings = s.world.device.toList.length
  down : ∀ d, s.world.device = some d → d.up = false ∧ d.downCalls = 1
  inactive : s.world.socket.active = false

/-- A session that returns an error leaves the host as it was: whatever failed, unless more than one
call on the routing table was refused or a gateway lies in the network of the granted address, where
the device takes it with it. -/
theorem undone_of_failed {w : World} {trigger : Trigger} {moves : List Move} {e : ClientError}
    (failed : (course c w trigger moves).coordinator = .finished (.error e))
    (alone : ∀ m ∈ moves, m.editsTable = false)
    (beyond : ∀ a, Granted c a (course c w trigger moves).world.events →
      c.Beyond a w.routes.table)
    (once : (course c w trigger moves).world.refusals ≤ 1) :
    Undone w.routes.table (course c w trigger moves) := by
  have unwound := unwinding_course c w trigger alone e failed
  have stage := (stage_finished_error failed).mp (stage_course c w trigger moves)
  refine ⟨unwound.table beyond once, unwound.openings, ?_, stage.inactive⟩
  intro d held
  rcases stage.device with none | ⟨settings, standing⟩
  · rw [none] at held
    cases held
  · rw [held, Option.map_some, Option.some.injEq, Device.standing, Prod.mk.injEq,
      Prod.mk.injEq] at standing
    exact standing.2

theorem Granted.first {a : TunnelAddress} {events : List Event} (h : Granted c a events) :
    ∃ reply, (events.filterMap Event.received?).head? = some reply ∧
      Handshake.granted c.key reply = .ok a := by
  obtain ⟨reply, before, after, rfl, grant, clean⟩ := h
  have none : before.filterMap Event.received? = [] := by
    rw [List.filterMap_eq_nil_iff]
    intro e he
    cases e with
    | received d => exact absurd rfl ((clean _ he).2 d)
    | _ => rfl
  exact ⟨reply, by simp [List.filterMap_append, none], grant⟩

namespace Trial

/-- The fourth call on the routing table, which would move the default route, is refused. -/
def refusing : World where
  routes := { table := ⟨some ⟨0xC0A80001⟩, [(⟨0x01010101⟩, ⟨0x02020202⟩)]⟩, refused := [3] }

end Trial

theorem undone_trial :
    (course Trial.setup Trial.refusing {} Trial.opening).world.refusals = 1 ∧
      (course Trial.setup Trial.refusing {} Trial.opening).world.openings = 1 ∧
      Undone Trial.refusing.routes.table
        (course Trial.setup Trial.refusing {} Trial.opening) := by
  have ended : (course Trial.setup Trial.refusing {} Trial.opening).phase = .closed ∧
      address? (course Trial.setup Trial.refusing {} Trial.opening).coordinator = none ∧
      (course Trial.setup Trial.refusing {} Trial.opening).world.refusals = 1 ∧
      (course Trial.setup Trial.refusing {} Trial.opening).world.openings = 1 ∧
      ((course Trial.setup Trial.refusing {} Trial.opening).world.events.filterMap
        Event.received?).head? = some Trial.grant := by
    decide +kernel
  obtain ⟨closed, none, one, opened, first⟩ := ended
  have grant : Handshake.granted Trial.setup.key Trial.grant = .ok ⟨⟨0x0A000002⟩⟩ := by
    decide +kernel
  have alone : ∀ m ∈ Trial.opening, m.editsTable = false := by decide
  have beyond : ∀ a, Granted Trial.setup a
      (course Trial.setup Trial.refusing {} Trial.opening).world.events →
      Trial.setup.Beyond a Trial.refusing.routes.table := by
    intro a granted
    obtain ⟨reply, first', grant'⟩ := granted.first
    obtain rfl := Option.some.inj (first.symm.trans first')
    obtain rfl := Except.ok.inj (grant.symm.trans grant')
    refine ⟨?_, ?_⟩
    · rintro gateway ⟨⟩
      decide
    · unfold Setup.Apart
      decide
  obtain ⟨outcome, finished⟩ := finished_of_closed (stage_course ..) closed
  cases outcome with
  | ok report =>
      rw [finished] at none
      cases none
  | error e => exact ⟨one, opened, undone_of_failed finished alone beyond (Nat.le_of_eq one)⟩

end Session

end TunnelClient
