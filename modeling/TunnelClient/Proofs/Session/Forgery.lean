import TunnelClient.Proofs.Session.Blind
import TunnelClient.Proofs.Session.Exchange

/-!
# Forged datagrams

Datagrams that do not open.  Whichever of them comes, a session goes on in the same way, and
where one is read it ends the handshake or the downlink with one error and nothing else.
-/

namespace TunnelClient

namespace Session

variable {c : Setup} {s s' : Session}

/-! ## Two sessions -/

/-- Sessions that differ at most in the datagrams that they were sent. -/
structure Alike (s s' : Session) : Prop where
  phase : s.phase = s'.phase
  coordinator : s.coordinator = s'.coordinator
  uplink : s.uplink = s'.uplink
  downlink : s.downlink = s'.downlink
  listener : s.listener = s'.listener
  channel : s.channel = s'.channel
  told : s.told = s'.told
  abandoned : s.abandoned = s'.abandoned
  stats : s.traffic.stats = s'.traffic.stats
  device : s.world.device = s'.world.device
  routes : s.world.routes = s'.world.routes
  active : s.world.socket.active = s'.world.socket.active
  deeds : s.world.events.filter (fun e => !e.isReceipt) =
    s'.world.events.filter fun e => !e.isReceipt

private theorem alike_of_blind {key : PresharedKey} (same : s.blind key = s'.blind key) :
    Alike s s' := by
  -- Blinding shows in no other field.
  have field : ∀ {α : Type} (f : Session → α), f (s.blind key) = f (s'.blind key) :=
    fun f => congrArg f same
  refine ⟨field Session.phase, field Session.coordinator, field Session.uplink,
    field Session.downlink, field Session.listener, field Session.channel, field Session.told,
    field Session.abandoned, field fun s => s.traffic.stats, field fun s => s.world.device,
    field fun s => s.world.routes, field fun s => s.world.socket.active, ?_⟩
  have events : s.world.events.map (Event.blind key) = s'.world.events.map (Event.blind key) :=
    field fun s => s.world.events
  rw [← Event.filter_blind key, events, Event.filter_blind]

/-- After either of two datagrams that do not open, the same moves lead to the same. -/
private theorem alike_of_forged {d₁ d₂ : Datagram} (forged₁ : Seal.opens c.key d₁ = false)
    (forged₂ : Seal.opens c.key d₂ = false) (s : Session) (moves : List Move) :
    Alike (run c s (.stimulus (.datagram d₁) :: moves))
      (run c s (.stimulus (.datagram d₂) :: moves)) := by
  have forgotten : ∀ {d : Datagram}, Seal.opens c.key d = false →
      (run c s (.stimulus (.datagram d) :: moves)).blind c.key =
        run c (s.blind c.key) (.stimulus (.datagram []) :: moves.map (Move.blind c.key)) := by
    intro d forged
    have blinded := run_blind (.stimulus (.datagram d) :: moves) s (c := c)
    rw [List.map_cons, Move.blind, Stimulus.blind, Seal.blind_of_forged forged] at blinded
    exact blinded.symm
  exact alike_of_blind ((forgotten forged₁).trans (forgotten forged₂).symm)

/-! ## One datagram -/

private theorem receive?_of_poll? {w : World} {d : Datagram} {socket : Socket}
    (next : w.socket.poll? = some (.ok d, socket)) :
    w.receive? = some (.ok d, { w with socket := socket }.record (.received d)) := by
  rw [World.receive?, next]

private theorem unwrap_of_forged {w w' : World} {d : Datagram} {key : PresharedKey}
    (received : w.receive? = some (.ok d, w')) (forged : Seal.opens key d = false) :
    Seal.unwrap key d = .error .decryption := by
  rw [Seal.opens, List.take_of_length_le (World.fits_receive? received)] at forged
  rcases Seal.unwrap_cases key d with ⟨text, opened⟩ | failed
  · rw [opened] at forged
    cases forged
  · exact failed

private theorem downlink_forged {d : Datagram} {socket : Socket} {obey : Bool}
    (waiting : s.downlink = .running .waiting)
    (heedless : (s.told.contains .downlink && obey) = false)
    (next : s.world.socket.poll? = some (.ok d, socket)) (forged : Seal.opens c.key d = false) :
    s.move c (.task .downlink obey) =
      { s.withWorld ({ s.world with socket := socket }.record (.received d)) with
        downlink := .reporting (.downlink (.ofWire .decryption)) } := by
  have received := receive?_of_poll? next
  have failed : Relay.packetOf c.key d = .error .decryption := by
    rw [Relay.packetOf, Seal.unwrapFrame, unwrap_of_forged received forged]
    rfl
  have input : Relay.downlinkInput c s.traffic = some (.ended (some (.ofWire .decryption)),
      { s.traffic with world := { s.world with socket := socket }.record (.received d) }) := by
    change s.traffic.world.receive? = _ at received
    simp only [Relay.downlinkInput, received, failed]
  simp only [move, stepRole, stepDownlink, waiting, Relay.downlinkStep, input, Relay.cancel,
    heedless, Bool.false_eq_true, if_false, Option.map_some, Option.getD_some, afterLoop]
  rfl

private theorem handshake_forged {d : Datagram} {socket : Socket} {deadline : Nat} {peer : Ipv4}
    (waiting : s.coordinator = .handshaking (.waiting deadline))
    (ipv4 : c.peer.address = .v4 peer)
    (next : s.world.socket.poll? = some (.ok d, socket)) (forged : Seal.opens c.key d = false) :
    s.move c .coordinator =
      (s.withWorld ({ s.world with socket := socket }.record (.received d))).conclude
        (.error (.ofWire .decryption)) := by
  have received := receive?_of_poll? next
  have failed : Handshake.granted c.key d = .error .decryption := by
    rw [Handshake.granted, Seal.unwrapFrame, unwrap_of_forged received forged]
    rfl
  simp only [move, stepCoordinator, waiting, Handshake.step, received,
    Handshake.answer_eq ipv4, failed, Handshake.concluded, Option.map_some, Option.getD_some,
    afterHandshake]

/-! ## Sessions that are over -/

private theorem still_of_finished {outcome : Except ClientError Report} (stage : Stage c s)
    (held : HoldsWhatItRead s) (finished : s.coordinator = .finished outcome)
    (moves : List Move) :
    (run c s moves).coordinator = .finished outcome ∧ (run c s moves).hostWork = s.hostWork ∧
      (run c s moves).world.device.map Device.standing = s.world.device.map Device.standing := by
  refine (run_induction (P := fun _ s' => s'.coordinator = .finished outcome ∧
    s'.hostWork = s.hostWork ∧ s'.world.device.map Device.standing =
      s.world.device.map Device.standing) stage held ⟨finished, rfl, rfl⟩ ?_ moves).1
  rintro moves m s₁ s₂ - step ⟨state, work, device⟩
  have beside : Aside s₁ s₂ → s₂.coordinator = .finished outcome ∧ s₂.hostWork = s.hostWork ∧
      s₂.world.device.map Device.standing = s.world.device.map Device.standing := fun aside =>
    ⟨aside.coordinator.trans state, (hostWork_aside aside).trans work, aside.device.trans device⟩
  cases step with
  | idle inner same => exact same ▸ ⟨state, work, device⟩
  | @feel x eq => exact beside (eq ▸ aside_of_feel x s₁)
  | task step beside' => exact beside (aside_of_taskStep step beside')
  | oversee step =>
      cases step with
      | settle other | receive other | despair other | join other | abandon other =>
          rw [state] at other
          cases other

private theorem peer_of_handshaking {w : World} {trigger : Trigger} {moves : List Move}
    {h : Handshake} (shaking : (course c w trigger moves).coordinator = .handshaking h) :
    ∃ peer, c.peer.address = .v4 peer := by
  cases address : c.peer.address with
  | v4 peer => exact ⟨peer, rfl⟩
  | v6 a =>
      -- The session is over before it could listen, and stays so.
      have refused : (begun c w trigger).coordinator =
          .finished (.error (.configInvalid "peer.host" (a.text ++ " is not IPv4"))) := by
        rw [begun, start, enter_eq_ok (by rfl)]
        simp only [Handshake.start_of_v6 address]
        rw [afterHandshake, conclude_error (by rfl)]
        rfl
      have over' := (still_of_finished (stage_begun c w trigger) (holds_begun c w trigger) refused
        moves).1
      rw [course, over'] at shaking
      cases shaking

/-! ## Forgeries -/

/-- What a session does with a datagram that does not open, once that is the next to be read: the
handshake fails without any work on the host, then or later; the downlink stops without writing or
counting anything. -/
structure Rejects (c : Setup) (s : Session) (d : Datagram) (socket : Socket) : Prop where
  handshake : ∀ deadline later, s.coordinator = .handshaking (.waiting deadline) →
    (run c s (.coordinator :: later)).coordinator = .finished (.error (.ofWire .decryption)) ∧
      (run c s (.coordinator :: later)).hostWork = [] ∧
      (run c s (.coordinator :: later)).world.device = none
  downlink : ∀ obey, s.downlink = .running .waiting →
    (s.told.contains .downlink && obey) = false →
    s.move c (.task .downlink obey) =
      { s.withWorld ({ s.world with socket := socket }.record (.received d)) with
        downlink := .reporting (.downlink (.ofWire .decryption)) }

theorem rejects_course {w : World} {trigger : Trigger} {moves : List Move} {d : Datagram}
    {socket : Socket}
    (next : (course c w trigger moves).world.socket.poll? = some (.ok d, socket))
    (forged : Seal.opens c.key d = false) : Rejects c (course c w trigger moves) d socket where
  handshake deadline later waiting := by
    obtain ⟨peer, ipv4⟩ := peer_of_handshaking waiting
    have failed := handshake_forged waiting ipv4 next forged
    have shaking := (stage_handshaking waiting).mp (stage_course c w trigger moves)
    have stage := stage_course c w trigger (moves ++ [.coordinator])
    have held := holds_course c w trigger (moves ++ [.coordinator])
    rw [course_append] at stage held
    generalize course c w trigger moves = s at *
    change Stage c (s.move c .coordinator) at stage
    change HoldsWhatItRead (s.move c .coordinator) at held
    have concluded := conclude_error (s := s.withWorld ({ s.world with socket := socket }.record
      (.received d))) shaking.phase (.ofWire .decryption)
    have finished : (s.move c .coordinator).coordinator =
        .finished (.error (.ofWire .decryption)) := by
      rw [failed, concluded]
      rfl
    have work : (s.move c .coordinator).hostWork = [] := by
      rw [failed, hostWork_conclude_error shaking.phase, World.record, List.filter_append]
      exact (List.append_nil _).trans shaking.hostWork
    have device : (s.move c .coordinator).world.device = none := by
      rw [failed, concluded]
      exact shaking.device
    -- This was all: a session that has ended is still.
    obtain ⟨finished', work', device'⟩ := still_of_finished stage held finished later
    refine ⟨finished', work'.trans work, ?_⟩
    rw [device] at device'
    exact Option.map_eq_none_iff.mp device'
  downlink obey waiting heedless := downlink_forged waiting heedless next forged

/-- **Datagrams that do not open cannot be told apart.**  Whichever of two comes, and whatever
happens then, the session does the same and ends up the same; and where one of them is read, all
that follows is the same error. -/
theorem forgeries_alike {w : World} {trigger : Trigger} {before : List Move} {d₁ d₂ : Datagram}
    (forged₁ : Seal.opens c.key d₁ = false) (forged₂ : Seal.opens c.key d₂ = false) :
    (∀ after, Alike (course c w trigger (before ++ .stimulus (.datagram d₁) :: after))
      (course c w trigger (before ++ .stimulus (.datagram d₂) :: after))) ∧
    ∀ d ∈ [d₁, d₂], ∀ after socket,
      (course c w trigger (before ++ .stimulus (.datagram d) :: after)).world.socket.poll? =
        some (.ok (d.take Frame.maxDatagram), socket) →
      Rejects c (course c w trigger (before ++ .stimulus (.datagram d) :: after))
        (d.take Frame.maxDatagram) socket := by
  constructor
  · intro after
    rw [course_append, course_append]
    exact alike_of_forged forged₁ forged₂ (course c w trigger before) after
  · intro d mem after socket next
    have forged : Seal.opens c.key d = false := by
      rcases List.mem_pair.mp mem with rfl | rfl
      · exact forged₁
      · exact forged₂
    exact rejects_course next ((Seal.opens_take c.key d).trans forged)

namespace Trial

def flipped : Datagram := grant.dropLast ++ [111]

end Trial

theorem forgeries_alike_trial :
    (Alike (course Trial.setup Trial.world {} [.stimulus (.datagram []), .coordinator])
        (course Trial.setup Trial.world {} [.stimulus (.datagram Trial.flipped), .coordinator]) ∧
      (course Trial.setup Trial.world {}
        [.stimulus (.datagram Trial.flipped), .coordinator]).coordinator =
          .finished (.error (.ofWire .decryption)) ∧
      (course Trial.setup Trial.world {}
        [.stimulus (.datagram Trial.flipped), .coordinator]).hostWork = []) ∧
    (course Trial.setup Trial.world {}
        (Trial.opening ++ [.stimulus (.datagram Trial.flipped), .task .downlink true])).downlink =
      .reporting (.downlink (.ofWire .decryption)) := by
  have empty : Seal.opens Trial.setup.key [] = false := by decide +kernel
  have flipped : Seal.opens Trial.setup.key Trial.flipped = false := by decide +kernel
  have forged : Trial.flipped ∈ [[], Trial.flipped] := List.mem_pair.mpr (.inr rfl)
  have replied : (course Trial.setup Trial.world {}
      [.stimulus (.datagram Trial.flipped)]).world.socket.poll? =
        some (.ok (Trial.flipped.take Frame.maxDatagram), {}) := by
    decide +kernel
  have waiting : (course Trial.setup Trial.world {}
      [.stimulus (.datagram Trial.flipped)]).coordinator = .handshaking (.waiting 5000) := by
    rfl
  obtain ⟨alike, rejects⟩ :=
    @forgeries_alike Trial.setup Trial.world {} [] [] Trial.flipped empty flipped
  obtain ⟨failed, idle, -⟩ := (rejects _ forged [] {} replied).handshake 5000 [] waiting
  have relayed : (course Trial.setup Trial.world {}
      (Trial.opening ++ [.stimulus (.datagram Trial.flipped)])).world.socket.poll? =
        some (.ok (Trial.flipped.take Frame.maxDatagram), {}) ∧
      (course Trial.setup Trial.world {}
        (Trial.opening ++ [.stimulus (.datagram Trial.flipped)])).downlink = .running .waiting ∧
      (course Trial.setup Trial.world {}
        (Trial.opening ++ [.stimulus (.datagram Trial.flipped)])).told = [] := by
    decide +kernel
  obtain ⟨next, running, untold⟩ := relayed
  obtain ⟨-, rejects'⟩ := @forgeries_alike Trial.setup Trial.world {} Trial.opening [] Trial.flipped
    empty flipped
  have stopped := (rejects' _ forged [] {} next).downlink true running (by rw [untold]; rfl)
  refine ⟨⟨alike [.coordinator], failed, idle⟩, ?_⟩
  change (Session.move Trial.setup (course Trial.setup Trial.world {}
    (Trial.opening ++ [.stimulus (.datagram Trial.flipped)])) (.task .downlink true)).downlink = _
  rw [stopped]

end Session

end TunnelClient
