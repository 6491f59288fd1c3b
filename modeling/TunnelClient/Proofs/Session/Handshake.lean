import TunnelClient.Proofs.Route.Detour
import TunnelClient.Proofs.Session.World
import TunnelClient.Session.Handshake

/-!
# What a handshake leaves

What a handshake leaves behind.  One that succeeds has opened a device with the
granted address and moved the default route into it, and its log says so; one that
fails before the reply is accepted has done no work on the host.
-/

namespace TunnelClient

/-! ## Logs of success -/

def RouteSnapshot.log (s : RouteSnapshot) : List Event :=
  [.route (.read true (.ok s.former)),
   .route (.change true (.setHost s.former s.peer) (.ok ())),
   .route (.change true .clearDefault (.ok ())),
   .route (.change true (.setDefault s.tunnel) (.ok ()))]

def RouteSnapshot.detour (s : RouteSnapshot) (t : RouteTable) : RouteTable :=
  ⟨some s.tunnel, RouteTable.insertHost s.peer s.former t.hosts⟩

def Tunnel.log (c : Setup) (t : Tunnel) : List Event :=
  .created (c.device.withAddress t.address.inner) (.ok ()) :: .raised (.ok ()) :: t.snapshot.log

theorem Tunnel.isHostWork_of_mem_log {c : Setup} {t : Tunnel} {e : Event} (h : e ∈ t.log c) :
    e.isHostWork = true := by
  simp only [log, RouteSnapshot.log, List.mem_cons, List.not_mem_nil, or_false] at h
  rcases h with rfl | rfl | rfl | rfl | rfl | rfl <;> rfl

namespace World

/-! ## Work on the routes -/

theorem readRoute_eq (w : World) :
    w.readRoute = (w.routes.read.1,
      { w with
        routes := w.routes.read.2
        events := w.events ++ [.route (.read w.routes.reaches w.routes.read.1)] }) :=
  rfl

theorem changeRoute_eq (c : RouteChange) (w : World) :
    w.changeRoute c = ((w.routes.change c).1,
      { w with
        routes := (w.routes.change c).2
        events := w.events ++ [.route (.change w.routes.reaches c (w.routes.change c).1)] }) :=
  rfl

/-- Between two worlds there was only work on the host. -/
structure Worked (w w' : World) : Prop where
  socket : w'.socket = w.socket
  events : ∃ es, w'.events = w.events ++ es ∧ ∀ e ∈ es, e.isHostWork = true

structure Rerouted (w w' : World) : Prop extends Worked w w' where
  device : w'.device = w.device

theorem Worked.refl (w : World) : Worked w w := ⟨rfl, [], by simp, by simp⟩

theorem Worked.trans {w w' w'' : World} (h : Worked w w') (h' : Worked w' w'') :
    Worked w w'' := by
  obtain ⟨es, hes, work⟩ := h.events
  obtain ⟨es', hes', work'⟩ := h'.events
  refine ⟨h'.socket.trans h.socket, es ++ es', ?_, ?_⟩
  · rw [hes', hes, List.append_assoc]
  · intro e he
    rcases List.mem_append.mp he with he | he
    · exact work e he
    · exact work' e he

private theorem worked_of_event {w w' : World} {e : Event} (socket : w'.socket = w.socket)
    (events : w'.events = w.events ++ [e]) (work : e.isHostWork = true) : Worked w w' :=
  ⟨socket, [e], events, by simpa using work⟩

private theorem rerouted_change (c : RouteChange) (w : World) : Rerouted w (w.changeRoute c).2 :=
  ⟨worked_of_event rfl rfl rfl, rfl⟩

private theorem rerouted_read (w : World) : Rerouted w w.readRoute.2 :=
  ⟨worked_of_event rfl rfl rfl, rfl⟩

theorem Rerouted.trans {w w' w'' : World} (h : Rerouted w w') (h' : Rerouted w' w'') :
    Rerouted w w'' :=
  ⟨h.toWorked.trans h'.toWorked, h'.device.trans h.device⟩

theorem rerouted_install (peer tunnel : Ipv4) (w : World) :
    Rerouted w (Detour.install router peer tunnel w).2 :=
  Detour.install_keeps (P := Rerouted w) (fun w' h => h.trans (rerouted_read w'))
    (fun c w' h => h.trans (rerouted_change c w')) peer tunnel ⟨Worked.refl w, rfl⟩

theorem readRoute_eq_ok {w w' : World} {gateway : Ipv4} (h : w.readRoute = (.ok gateway, w')) :
    w.routes.table.default = some gateway ∧ w'.routes = w.routes.counted ∧
      w'.events = w.events ++ [.route (.read true (.ok gateway))] := by
  rw [readRoute_eq, Prod.mk.injEq] at h
  obtain ⟨hread, rfl⟩ := h
  have whole : w.routes.read = (.ok gateway, w.routes.read.2) := Prod.ext hread rfl
  obtain ⟨reached, hdefault, hroutes⟩ := FaultyRoutes.read_eq_ok whole
  refine ⟨hdefault, hroutes, ?_⟩
  rw [hread, reached]

theorem changeRoute_eq_ok {w w' : World} {c : RouteChange} (h : w.changeRoute c = (.ok (), w')) :
    w.routes.table.change c = .ok w'.routes.table ∧
      w'.events = w.events ++ [.route (.change true c (.ok ()))] ∧
      w'.routes.failing = w.routes.failing ∧ w'.routes.refused = w.routes.refused := by
  rw [changeRoute_eq, Prod.mk.injEq] at h
  obtain ⟨hchange, rfl⟩ := h
  have whole : w.routes.change c = (.ok (), (w.routes.change c).2) := Prod.ext hchange rfl
  obtain ⟨reached, htable⟩ := FaultyRoutes.change_eq_ok whole
  refine ⟨htable, ?_, FaultyRoutes.failing_change c w.routes,
    FaultyRoutes.refused_change c w.routes⟩
  rw [hchange, reached]

theorem install_eq_ok {peer gateway : Ipv4} {w w' : World} {snapshot : RouteSnapshot}
    (h : Detour.install router peer gateway w = (.ok snapshot, w')) :
    snapshot = ⟨snapshot.former, gateway, peer⟩ ∧
      w.routes.table.default = some snapshot.former ∧
      w.routes.table.host? peer = none ∧
      w'.events = w.events ++ snapshot.log ∧
      w'.routes.table = snapshot.detour w.routes.table ∧
      w'.routes.failing = w.routes.failing ∧ w'.routes.refused = w.routes.refused := by
  obtain ⟨former, w₁, w₂, w₃, rfl, hread, hhost, hclear, hset⟩ := Detour.install_eq_ok h
  obtain ⟨hdefault, hroutes₁, hevents₁⟩ := readRoute_eq_ok hread
  obtain ⟨htable₂, hevents₂, hfailing₂, hrefused₂⟩ := changeRoute_eq_ok hhost
  obtain ⟨htable₃, hevents₃, hfailing₃, hrefused₃⟩ := changeRoute_eq_ok hclear
  obtain ⟨htable₄, hevents₄, hfailing₄, hrefused₄⟩ := changeRoute_eq_ok hset
  have fresh : w.routes.table.host? peer = none := by
    cases hknown : w.routes.table.host? peer with
    | none => rfl
    | some via => simp [hroutes₁, FaultyRoutes.counted, RouteTable.change, hknown] at htable₂
  simp only [hroutes₁, FaultyRoutes.counted, RouteTable.change, fresh, Except.ok.injEq] at htable₂
  simp only [RouteTable.change, ← htable₂, Except.ok.injEq] at htable₃
  simp only [RouteTable.change, ← htable₃, Except.ok.injEq] at htable₄
  refine ⟨rfl, hdefault, fresh, ?_, htable₄.symm, ?_, ?_⟩
  · rw [hevents₄, hevents₃, hevents₂, hevents₁]
    simp [RouteSnapshot.log]
  · rw [hfailing₄, hfailing₃, hfailing₂, hroutes₁]
    rfl
  · rw [hrefused₄, hrefused₃, hrefused₂, hroutes₁]
    rfl

theorem events_change (c : RouteChange) (w : World) : (w.changeRoute c).2.events =
    w.events ++ [.route (.change w.routes.reaches c (w.changeRoute c).1)] :=
  rfl

theorem restore_spec (snapshot : RouteSnapshot) (w : World) :
    Rerouted w (Detour.restore router snapshot w).2 ∧
      ∃ b₁ b₂ b₃ cleared restored removed,
        (Detour.restore router snapshot w).2.events = w.events ++
          [.route (.change b₁ .clearDefault cleared),
           .route (.change b₂ (.setDefault snapshot.former) restored),
           .route (.change b₃ (.clearHost snapshot.peer) removed)] := by
  cases h₁ : w.changeRoute .clearDefault with
  | mk cleared w₁ =>
      cases h₂ : w₁.changeRoute (.setDefault snapshot.former) with
      | mk restored w₂ =>
          have first := rerouted_change .clearDefault w
          have second := rerouted_change (.setDefault snapshot.former) w₁
          have third := rerouted_change (.clearHost snapshot.peer) w₂
          have log₁ := events_change .clearDefault w
          have log₂ := events_change (.setDefault snapshot.former) w₁
          have log₃ := events_change (.clearHost snapshot.peer) w₂
          rw [h₁] at first log₁
          rw [h₂] at second log₂
          have eq : (Detour.restore router snapshot w).2 =
              (w₂.changeRoute (.clearHost snapshot.peer)).2 := by
            simp only [Detour.restore, router, h₁, h₂]
          rw [eq]
          refine ⟨(first.trans second).trans third, w.routes.reaches, w₁.routes.reaches,
            w₂.routes.reaches, cleared, restored, (w₂.changeRoute (.clearHost snapshot.peer)).1, ?_⟩
          rw [log₃, log₂, log₁, List.append_assoc, List.append_assoc]
          rfl

/-! ## Work on the link -/

theorem createDevice_cases (s : DeviceSettings) (w : World) :
    (∃ w', w.createDevice s = (.ok (), w') ∧ w'.device = some { settings := s } ∧
      w'.socket = w.socket ∧ w'.routes = w.routes ∧
      w'.events = w.events ++ [.created s (.ok ())]) ∨
    (∃ e w', w.createDevice s = (.error e, w') ∧ w'.device = w.device ∧
      w'.socket = w.socket ∧ w'.routes = w.routes ∧
      w'.events = w.events ++ [.created s (.error e)]) := by
  rw [createDevice]
  cases hc : w.provider.create s with
  | mk outcome provider =>
      cases outcome with
      | error e => exact .inr ⟨e, _, rfl, rfl, rfl, rfl, rfl⟩
      | ok device =>
          have new : device = { settings := s } := by
            rw [DeviceProvider.create] at hc
            split at hc
            · cases hc
            · split at hc
              · cases hc
              · cases hc
                rfl
          subst new
          exact .inl ⟨_, rfl, rfl, rfl, rfl, rfl⟩

theorem bringUp_cases (w : World) :
    (∃ w', w.bringUp = (.ok (), w') ∧ w'.device = w.device.map Device.bringUp ∧
      w'.socket = w.socket ∧ w'.routes = w.routes ∧
      w'.events = w.events ++ [.raised (.ok ())]) ∨
    (∃ e w', w.bringUp = (.error e, w') ∧ w'.device = w.device ∧
      w'.socket = w.socket ∧ w'.routes = w.routes ∧
      w'.events = w.events ++ [.raised (.error e)]) := by
  rw [bringUp]
  split
  · exact .inr ⟨_, _, rfl, rfl, rfl, rfl, rfl⟩
  · exact .inl ⟨_, rfl, rfl, rfl, rfl, rfl⟩

/-- Bringing the device down is recorded, whether or not the call reports a failure, and takes no
more than the routes of the link. -/
theorem bringDown_spec (w : World) :
    w.bringDown.device = w.device.map Device.bringDown ∧ w.bringDown.socket = w.socket ∧
      w.bringDown.routes = (match w.device with
        | none => w.routes
        | some device =>
          if w.provider.linked then w.routes.mapTable device.routesAfterDown else w.routes) ∧
      ∃ outcome, w.bringDown.events = w.events ++ [.lowered outcome] := by
  cases hd : w.device with
  | none => cases hf : w.downFailure <;> simp [bringDown, hd, hf, record]
  | some device => cases hf : w.downFailure <;> simp [bringDown, hd, hf, record]

private theorem worked_bringDown (w : World) : Worked w w.bringDown := by
  obtain ⟨-, hsocket, -, outcome, hevents⟩ := bringDown_spec w
  exact worked_of_event hsocket hevents rfl

theorem closeSocket_spec (w : World) :
    w.closeSocket.socket.active = false ∧ w.closeSocket.device = w.device ∧
      w.closeSocket.routes = w.routes ∧
      ∃ outcome, w.closeSocket.events = w.events ++ [.closed outcome] :=
  ⟨Socket.active_close w.socket, rfl, rfl, w.socket.close.1, rfl⟩

end World

/-! ## The handshake -/

/-- No phase was left for one that it cannot become. -/
def ClientError.IsFailure (e : ClientError) : Prop :=
  ∀ source target, e ≠ .invalidState source target

theorem ClientError.isFailure_ofHost (e : HostError) : (ofHost e).IsFailure := by
  intro source target h
  cases h

theorem ClientError.isFailure_ofWire (e : WireError) : (ofWire e).IsFailure := by
  intro source target h
  cases h

namespace Handshake

variable {c : Setup} {w w' : World}

theorem peerIpv4_eq_ok {peer : Ipv4} (h : peerIpv4 c = .ok peer) :
    c.peer.address = .v4 peer := by
  rw [peerIpv4] at h
  split at h
  · rename_i a ha
    cases h
    exact ha
  · cases h

private theorem isFailure_of_peerIpv4 {e : ClientError} (h : peerIpv4 c = .error e) :
    e.IsFailure := by
  rw [peerIpv4] at h
  split at h
  · cases h
  · cases h
    intro source target h
    cases h

theorem start_spec (c : Setup) (w : World) :
    World.Relayed w (start c w).2 ∧
      (∃ es, (start c w).2.events = w.events ++ es ∧ ∀ e ∈ es, ∀ d, e ≠ .received d) ∧
      ∀ outcome, (start c w).1 = .finished outcome → ∃ e, outcome = .error e ∧ e.IsFailure := by
  cases hpeer : peerIpv4 c with
  | error e =>
      simp only [start, hpeer]
      refine ⟨World.Relayed.refl w, ⟨[], by simp, by simp⟩, ?_⟩
      rintro outcome ⟨⟩
      exact ⟨e, rfl, isFailure_of_peerIpv4 hpeer⟩
  | ok peer =>
      have sealed := World.relayed_sealFrame c ⟨.request, []⟩ w
      have unchanged : (w.sealFrame c ⟨.request, []⟩).2.events = w.events := rfl
      cases hseal : w.sealFrame c ⟨.request, []⟩ with
      | mk outcome w₁ =>
          rw [hseal] at sealed unchanged
          cases outcome with
          | error e =>
              simp only [start, hpeer, hseal]
              refine ⟨sealed, ⟨[], by simpa using unchanged, by simp⟩, ?_⟩
              rintro outcome ⟨⟩
              exact ⟨_, rfl, ClientError.isFailure_ofWire e⟩
          | ok request =>
              obtain ⟨sent, hevents⟩ := World.relayed_send c request w₁
              have relayed := sealed.trans sent
              cases hsend : w₁.send c request with
              | mk result w₂ =>
                  rw [hsend] at relayed hevents
                  rw [show w₁.events = w.events from unchanged] at hevents
                  cases result with
                  | done =>
                      simp only [start, hpeer, hseal, hsend]
                      refine ⟨relayed, ⟨_, hevents, by simp [World.sending]⟩, ?_⟩
                      rintro outcome ⟨⟩
                  | failed e =>
                      simp only [start, hpeer, hseal, hsend]
                      refine ⟨relayed, ⟨_, hevents, by simp [World.sending]⟩, ?_⟩
                      rintro outcome ⟨⟩
                      exact ⟨_, rfl, ClientError.isFailure_ofHost e⟩
                  | hangs =>
                      simp only [start, hpeer, hseal, hsend]
                      refine ⟨relayed, ⟨_, hevents, by simp [World.sending]⟩, ?_⟩
                      rintro outcome ⟨⟩

theorem setUp_eq_ok {peer : Ipv4} {a : TunnelAddress} {t : Tunnel}
    (h : setUp c peer a w = (.ok t, w')) :
    t = ⟨a, t.snapshot.former, a.gateway, peer⟩ ∧
      w.routes.table.default = some t.snapshot.former ∧
      w.routes.table.host? peer = none ∧
      w'.device = some { settings := c.device.withAddress a.inner, up := true } ∧
      w'.socket = w.socket ∧ w'.events = w.events ++ t.log c ∧
      w'.routes.table = t.snapshot.detour w.routes.table ∧
      w'.routes.failing = w.routes.failing ∧ w'.routes.refused = w.routes.refused := by
  rw [setUp] at h
  rcases World.createDevice_cases (c.device.withAddress a.inner) w with
    ⟨w₁, hcreate, device₁, socket₁, routes₁, events₁⟩ | ⟨e, w₁, hcreate, -⟩
  · rw [hcreate] at h
    rcases World.bringUp_cases w₁ with
      ⟨w₂, hup, device₂, socket₂, routes₂, events₂⟩ | ⟨e, w₂, hup, -⟩
    · simp only [hup] at h
      cases hinstall : Detour.install World.router peer a.gateway w₂ with
      | mk outcome w₃ =>
          have frame := World.rerouted_install peer a.gateway w₂
          rw [hinstall] at frame
          simp only [hinstall] at h
          cases outcome with
          | error e => cases h
          | ok snapshot =>
              cases h
              obtain ⟨hsnapshot, hdefault, fresh, events₃, table₃, failing₃, refused₃⟩ :=
                World.install_eq_ok hinstall
              rw [routes₂, routes₁] at hdefault fresh table₃ failing₃ refused₃
              refine ⟨?_, hdefault, fresh, ?_, ?_, ?_, table₃, failing₃, refused₃⟩
              · rw [← hsnapshot]
              · rw [frame.device, device₂, device₁]
                rfl
              · exact (frame.socket.trans socket₂).trans socket₁
              · rw [events₃, events₂, events₁]
                simp [Tunnel.log]
    · simp only [hup] at h
      cases h
  · rw [hcreate] at h
    cases h

/-- How setting up a tunnel can fail: the device is not created, or it does not come up, or the
detour is not installed.  A device that was created is brought down. -/
inductive Collapse (c : Setup) (peer : Ipv4) (a : TunnelAddress) (w : World) : World → Prop
  | uncreated {e : HostError} {w' : World} (device : w'.device = w.device)
      (socket : w'.socket = w.socket) (routes : w'.routes = w.routes)
      (events : w'.events = w.events ++ [.created (c.device.withAddress a.inner) (.error e)]) :
      Collapse c peer a w w'
  | unraised {e : HostError} {w₁ : World}
      (device : w₁.device = some { settings := c.device.withAddress a.inner })
      (socket : w₁.socket = w.socket) (routes : w₁.routes = w.routes)
      (events : w₁.events = w.events ++
        [.created (c.device.withAddress a.inner) (.ok ()), .raised (.error e)]) :
      Collapse c peer a w w₁.bringDown
  | undirected {e : HostError} {w₁ w₂ : World}
      (device : w₁.device = some { settings := c.device.withAddress a.inner, up := true })
      (socket : w₁.socket = w.socket) (routes : w₁.routes = w.routes)
      (events : w₁.events = w.events ++
        [.created (c.device.withAddress a.inner) (.ok ()), .raised (.ok ())])
      (install : Detour.install World.router peer a.gateway w₁ = (.error e, w₂)) :
      Collapse c peer a w w₂.bringDown

theorem collapse_of_setUp {peer : Ipv4} {a : TunnelAddress} {e : ClientError}
    (h : setUp c peer a w = (.error e, w')) : e.IsFailure ∧ Collapse c peer a w w' := by
  rw [setUp] at h
  rcases World.createDevice_cases (c.device.withAddress a.inner) w with
    ⟨w₁, hcreate, device₁, socket₁, routes₁, events₁⟩ |
    ⟨e₁, w₁, hcreate, device₁, socket₁, routes₁, events₁⟩
  · rw [hcreate] at h
    rcases World.bringUp_cases w₁ with
      ⟨w₂, hup, device₂, socket₂, routes₂, events₂⟩ |
      ⟨e₂, w₂, hup, device₂, socket₂, routes₂, events₂⟩
    · simp only [hup] at h
      have socket := socket₂.trans socket₁
      have routes := routes₂.trans routes₁
      rw [device₁] at device₂
      rw [events₁, List.append_assoc] at events₂
      cases hinstall : Detour.install World.router peer a.gateway w₂ with
      | mk outcome w₃ =>
          simp only [hinstall] at h
          cases outcome with
          | ok snapshot => cases h
          | error e₃ =>
              cases h
              exact ⟨ClientError.isFailure_ofHost e₃,
                .undirected device₂ socket routes events₂ hinstall⟩
    · simp only [hup] at h
      cases h
      rw [events₁, List.append_assoc] at events₂
      exact ⟨ClientError.isFailure_ofHost e₂, .unraised (device₂.trans device₁)
        (socket₂.trans socket₁) (routes₂.trans routes₁) events₂⟩
  · rw [hcreate] at h
    cases h
    exact ⟨ClientError.isFailure_ofHost e₁, .uncreated device₁ socket₁ routes₁ events₁⟩

theorem Collapse.worked {peer : Ipv4} {a : TunnelAddress} (h : Collapse c peer a w w') :
    World.Worked w w' := by
  cases h with
  | uncreated device socket routes events => exact ⟨socket, _, events, by simp [Event.isHostWork]⟩
  | @unraised e w₁ device socket routes events =>
      have raised : World.Worked w w₁ := ⟨socket, _, events, by simp [Event.isHostWork]⟩
      exact raised.trans (World.worked_bringDown w₁)
  | @undirected e w₁ w₂ device socket routes events install =>
      have raised : World.Worked w w₁ := ⟨socket, _, events, by simp [Event.isHostWork]⟩
      have frame := World.rerouted_install peer a.gateway w₁
      rw [install] at frame
      exact (raised.trans frame.toWorked).trans (World.worked_bringDown w₂)

theorem worked_setUp (c : Setup) (peer : Ipv4) (a : TunnelAddress) (w : World) :
    World.Worked w (setUp c peer a w).2 := by
  cases hset : setUp c peer a w with
  | mk outcome w' =>
      cases outcome with
      | error e => exact (collapse_of_setUp hset).2.worked
      | ok t =>
          obtain ⟨-, -, -, -, socket, log, -⟩ := setUp_eq_ok hset
          exact ⟨socket, t.log c, log, fun e => Tunnel.isHostWork_of_mem_log⟩

theorem Collapse.device {peer : Ipv4} {a : TunnelAddress} (h : Collapse c peer a w w') :
    w'.device = w.device ∨
      w'.device.map Device.standing = some (c.device.withAddress a.inner, false, 1) := by
  cases h with
  | uncreated device => exact .inl device
  | @unraised e w₁ device =>
      rw [(World.bringDown_spec w₁).1, device]
      exact .inr rfl
  | @undirected e w₁ w₂ device socket routes events install =>
      have frame := World.rerouted_install peer a.gateway w₁
      rw [install] at frame
      rw [(World.bringDown_spec w₂).1, frame.device, device]
      exact .inr rfl

/-- How a handshake can end: it has only received, or it did not succeed in setting up the tunnel
that it was granted, or it did. -/
inductive Turn (c : Setup) (w : World) : Except ClientError Tunnel → World → Prop
  | fail {e : ClientError} {w' : World} (failure : e.IsFailure) (relayed : World.Relayed w w') :
      Turn c w (.error e) w'
  | undo {reply : Datagram} {a : TunnelAddress} {e : ClientError} {w₁ w' : World}
      (relayed : World.Relayed w w₁) (events : w₁.events = w.events ++ [.received reply])
      (grant : granted c.key reply = .ok a) (failure : e.IsFailure)
      (worked : World.Worked w₁ w')
      (device : w'.device = w₁.device ∨
        w'.device.map Device.standing = some (c.device.withAddress a.inner, false, 1)) :
      Turn c w (.error e) w'
  | accept {reply : Datagram} {t : Tunnel} {w₁ w' : World}
      (relayed : World.Relayed w w₁) (events : w₁.events = w.events ++ [.received reply])
      (grant : granted c.key reply = .ok t.address) (peer : c.peer.address = .v4 t.snapshot.peer)
      (gateway : t.snapshot.tunnel = t.address.gateway)
      (former : w.routes.table.default = some t.snapshot.former)
      (fresh : w.routes.table.host? t.snapshot.peer = none)
      (device : w'.device.map Device.standing =
        some (c.device.withAddress t.address.inner, true, 0))
      (log : w'.events = w₁.events ++ t.log c)
      (table : w'.routes.table = t.snapshot.detour w.routes.table)
      (failing : w'.routes.failing = w.routes.failing)
      (refused : w'.routes.refused = w.routes.refused) :
      Turn c w (.ok t) w'

private theorem turn_of_setUp {peer : Ipv4} {reply : Datagram} {a : TunnelAddress} {w₁ : World}
    {outcome : Except ClientError Tunnel} (relayed : World.Relayed w w₁)
    (events : w₁.events = w.events ++ [.received reply])
    (grant : granted c.key reply = .ok a) (ipv4 : c.peer.address = .v4 peer)
    (hset : setUp c peer a w₁ = (outcome, w')) : Turn c w outcome w' := by
  cases outcome with
  | error e =>
      obtain ⟨failure, collapse⟩ := collapse_of_setUp hset
      exact .undo relayed events grant failure collapse.worked collapse.device
  | ok t =>
      obtain ⟨ht, former, fresh, device, -, log, table, failing, refused⟩ := setUp_eq_ok hset
      have address : t.address = a := congrArg Tunnel.address ht
      have snapshot : t.snapshot = ⟨t.snapshot.former, a.gateway, peer⟩ :=
        congrArg Tunnel.snapshot ht
      have hpeer : t.snapshot.peer = peer := congrArg RouteSnapshot.peer snapshot
      have gateway : t.snapshot.tunnel = a.gateway := congrArg RouteSnapshot.tunnel snapshot
      rw [relayed.routes] at former fresh table failing refused
      rw [← address] at grant gateway
      rw [← hpeer] at ipv4 fresh
      refine .accept relayed events grant ipv4 gateway former fresh ?_ log table failing refused
      rw [device, address]
      rfl

theorem step_cases {h h' : Handshake} (hstep : step c h w = some (h', w')) :
    ∃ outcome, h' = finished outcome ∧
      ((∃ e, outcome = .error e ∧ e.IsFailure ∧ World.Relayed w w') ∨
        ∃ reply a peer w₁, World.Relayed w w₁ ∧ w₁.events = w.events ++ [.received reply] ∧
          granted c.key reply = .ok a ∧ c.peer.address = .v4 peer ∧
          setUp c peer a w₁ = (outcome, w')) := by
  cases h with
  | stuck | finished outcome => cases hstep
  | waiting deadline =>
      simp only [step] at hstep
      cases hreceive : w.receive? with
      | none =>
          simp only [hreceive] at hstep
          split at hstep
          · cases hstep
            refine ⟨_, rfl, .inl ⟨_, rfl, ?_, World.Relayed.refl w⟩⟩
            intro source target h
            cases h
          · cases hstep
      | some received =>
          obtain ⟨outcome, w₁⟩ := received
          obtain ⟨relayed, hevents⟩ := World.relayed_receive? hreceive
          cases outcome with
          | error e =>
              simp only [hreceive] at hstep
              cases hstep
              exact ⟨_, rfl, .inl ⟨_, rfl, ClientError.isFailure_ofHost e, relayed⟩⟩
          | ok reply =>
              simp only [hreceive, answer] at hstep
              cases hpeer : peerIpv4 c with
              | error e =>
                  simp only [hpeer] at hstep
                  cases hstep
                  exact ⟨_, rfl, .inl ⟨_, rfl, isFailure_of_peerIpv4 hpeer, relayed⟩⟩
              | ok peer =>
                  simp only [hpeer] at hstep
                  cases hgrant : granted c.key reply with
                  | error e =>
                      simp only [hgrant] at hstep
                      cases hstep
                      exact ⟨_, rfl, .inl ⟨_, rfl, ClientError.isFailure_ofWire e, relayed⟩⟩
                  | ok a =>
                      simp only [hgrant] at hstep
                      cases hstep
                      exact ⟨_, rfl, .inr ⟨reply, a, peer, w₁, relayed, hevents, hgrant,
                        peerIpv4_eq_ok hpeer, rfl⟩⟩

theorem turn_of_step {h h' : Handshake} (hstep : step c h w = some (h', w')) :
    ∃ outcome, h' = finished outcome ∧ Turn c w outcome w' := by
  obtain ⟨outcome, rfl, ⟨e, rfl, failure, relayed⟩ |
    ⟨reply, a, peer, w₁, relayed, events, grant, ipv4, hset⟩⟩ := step_cases hstep
  · exact ⟨_, rfl, .fail failure relayed⟩
  · exact ⟨_, rfl, turn_of_setUp relayed events grant ipv4 hset⟩

theorem Turn.events {outcome : Except ClientError Tunnel} (h : Turn c w outcome w') :
    ∃ es, w'.events = w.events ++ es ∧ ∀ e ∈ es, e.isTraffic = true ∨ e.isHostWork = true := by
  have received : ∀ {w₁ : World} {reply : Datagram} {es : List Event},
      w₁.events = w.events ++ [.received reply] → w'.events = w₁.events ++ es →
      (∀ e ∈ es, e.isHostWork = true) →
      ∃ es, w'.events = w.events ++ es ∧ ∀ e ∈ es, e.isTraffic = true ∨ e.isHostWork = true := by
    intro w₁ reply es hreceived hes work
    refine ⟨.received reply :: es, ?_, ?_⟩
    · rw [hes, hreceived, List.append_assoc]
      rfl
    · intro e he
      rcases List.mem_cons.mp he with rfl | he
      · exact .inl rfl
      · exact .inr (work e he)
  cases h with
  | fail failure relayed =>
      obtain ⟨es, hes, traffic⟩ := relayed.events
      exact ⟨es, hes, fun e he => .inl (traffic e he)⟩
  | undo relayed events grant failure worked =>
      obtain ⟨es, hes, work⟩ := worked.events
      exact received events hes work
  | accept relayed events grant peer gateway former fresh device log =>
      exact received events log fun e he => Tunnel.isHostWork_of_mem_log he

end Handshake

end TunnelClient
