import Mathlib.Algebra.GroupWithZero.Nat
import Mathlib.Data.List.Induction
import TunnelClient.Proofs.Relay.Flow
import TunnelClient.Proofs.Session.Course
import TunnelClient.Proofs.Session.Grant
import TunnelClient.Session.Schedule

/-!
# Request and reply

Courses of a handshake on its own: any sequence of stimuli and of looks at the socket
after the Request.  The first datagram that comes decides; those behind it stay queued.
-/

namespace TunnelClient

/-- A socket on which no call fails or hangs. -/
structure Socket.Sound (s : Socket) : Prop where
  active : s.active = true
  sends : s.sendFailure = none
  receives : s.receiveFailure = none
  returns : s.sendHangs = false
  reached : s.peerGone = false

namespace Stimulus

def leavesReceiving : Stimulus → Bool
  | failReceive _ | close => false
  | _ => true

def milliseconds : Stimulus → Nat
  | elapse milliseconds => milliseconds
  | _ => 0

end Stimulus

namespace World

private theorem inbound_feel (x : Stimulus) (w : World) :
    (w.feel x).socket.inbound = w.socket.inbound ++ x.datagrams := by
  cases x <;>
    simp [feel, closeSocket, record, Socket.inbound_close, onSocket, onDevice, onRoutes,
      Socket.deliver, Stimulus.datagrams]

private theorem clock_feel (x : Stimulus) (w : World) :
    (w.feel x).clock = w.clock + x.milliseconds := by
  cases x <;> simp [feel, closeSocket, record, onSocket, onDevice, onRoutes, Stimulus.milliseconds]

private theorem feel_of_leavesReceiving {x : Stimulus} (leaves : x.leavesReceiving = true)
    (w : World) : (w.feel x).events = w.events ∧ (w.feel x).socket.active = w.socket.active ∧
      (w.feel x).socket.receiveFailure = w.socket.receiveFailure := by
  cases x with
  | failReceive reason => cases leaves
  | close => cases leaves
  | _ => simp [feel, onSocket, onDevice, onRoutes, Socket.deliver]

end World

namespace Handshake

variable {c : Setup} {w w' : World} {peer : Ipv4}

def concluded (c : Setup) (peer : Ipv4) (verdict : Except WireError TunnelAddress) (w : World) :
    Except ClientError Tunnel × World :=
  match verdict with
  | .error e => (.error (.ofWire e), w)
  | .ok a => setUp c peer a w

private theorem worked_concluded (c : Setup) (peer : Ipv4)
    (verdict : Except WireError TunnelAddress)
    (w : World) : World.Worked w (concluded c peer verdict w).2 := by
  cases verdict with
  | error e => exact World.Worked.refl w
  | ok a => exact worked_setUp c peer a w

private theorem peerIpv4_of_v4 (ipv4 : c.peer.address = .v4 peer) : peerIpv4 c = .ok peer := by
  rw [peerIpv4, ipv4]

theorem answer_eq (ipv4 : c.peer.address = .v4 peer) (reply : Datagram) (w : World) :
    answer c reply w = concluded c peer (granted c.key reply) w := by
  rw [answer, peerIpv4_of_v4 ipv4]
  cases hgrant : granted c.key reply <;> simp only [concluded]

theorem grants_cut_iff {key : PresharedKey} {reply : Datagram} {a : TunnelAddress} :
    Grants key (cut reply) a ↔ Grants key reply a := by
  have uncut : reply.length = 37 → cut reply = reply := fun length =>
    cut_of_length_le (length ▸ by decide)
  constructor
  · intro grants
    have length := grants.length
    rw [cut, List.length_take, Frame.maxDatagram] at length
    rwa [uncut (by omega)] at grants
  · intro grants
    rwa [uncut grants.length]

theorem start_of_v6 {a : Ipv6} (ipv6 : c.peer.address = .v6 a) (w : World) :
    start c w =
      (.finished (.error (.configInvalid "peer.host" (a.text ++ " is not IPv4"))), w) := by
  simp only [start, peerIpv4, ipv6]

private theorem start_of_v4 (ipv4 : c.peer.address = .v4 peer) (sound : w.socket.Sound) :
    ∃ request, Seal.unwrapFrame c.key request = .ok ⟨.request, []⟩ ∧
      start c w = (.waiting (w.clock + c.timeout),
        { w with drawn := w.drawn + 1, events := w.events ++ [.sent request] }) := by
  have short : Cipher.Aead.fits (Frame.encode ⟨.request, []⟩) = true := by decide
  obtain ⟨request, sealed⟩ := Seal.exists_wrap c.key (c.nonces w.drawn) short
  have wrapped : Seal.wrapFrame c.key (c.nonces w.drawn) ⟨.request, []⟩ = .ok request := sealed
  refine ⟨request, ?_, ?_⟩
  · simp only [Seal.unwrapFrame, Seal.unwrap_of_wrap sealed, bind, Except.bind,
      Frame.decode_encode]
  · simp [start, peerIpv4_of_v4 ipv4, World.sealFrame, wrapped, World.send, Socket.send,
      sound.active, sound.sends, sound.returns, sound.reached, World.record]

end Handshake

private theorem Session.afterHandshake_ok {s : Session} (phase : s.phase = .handshaking)
    (t : Tunnel) : (s.afterHandshake (.finished (.ok t))).downlink = .running .waiting ∧
      (s.afterHandshake (.finished (.ok t))).world.socket = s.world.socket := by
  rw [afterHandshake, conclude_ok phase]
  exact ⟨rfl, rfl⟩

namespace HandshakeRun

inductive Move where
  | stimulus (x : Stimulus)
  | poll
  deriving DecidableEq, Repr

namespace Move

def datagrams : Move → List Datagram
  | stimulus x => x.datagrams
  | poll => []

def milliseconds : Move → Nat
  | stimulus x => x.milliseconds
  | poll => 0

def leavesReceiving : Move → Bool
  | stimulus x => x.leavesReceiving
  | poll => true

end Move

def move (c : Setup) (r : HandshakeRun) : Move → HandshakeRun
  | .stimulus x => { r with world := r.world.feel x }
  | .poll => (r.step c).getD r

def course (c : Setup) (w : World) (moves : List Move) : HandshakeRun :=
  moves.foldl (move c) (start c w.forget)

def arrived (w : World) (moves : List Move) : List Datagram :=
  w.socket.inbound ++ moves.flatMap Move.datagrams

def elapsed (moves : List Move) : Nat := (moves.map Move.milliseconds).sum

variable {c : Setup} {w : World} {moves : List Move} {peer : Ipv4} {request : Datagram}
  {r : HandshakeRun}

private theorem course_snoc (c : Setup) (w : World) (moves : List Move) (m : Move) :
    course c w (moves ++ [m]) = (course c w moves).move c m := by
  rw [course, List.foldl_append]
  rfl

private theorem arrived_snoc (w : World) (moves : List Move) (m : Move) :
    arrived w (moves ++ [m]) = arrived w moves ++ m.datagrams := by
  simp [arrived]

private theorem elapsed_snoc (moves : List Move) (m : Move) :
    elapsed (moves ++ [m]) = elapsed moves + m.milliseconds := by
  simp [elapsed]

private theorem elapsed_le {early : List Move} (first : early <+: moves) :
    elapsed early ≤ elapsed moves := by
  obtain ⟨later, rfl⟩ := first
  simp [elapsed]

/-- The Request is out, and no datagram has been looked at. -/
structure Waits (c : Setup) (w : World) (request : Datagram) (moves : List Move)
    (r : HandshakeRun) : Prop where
  state : r.handshake = .waiting (w.clock + c.timeout)
  events : r.world.events = [.sent request]
  queued : r.world.socket.inbound = arrived w moves
  clock : r.world.clock = w.clock + elapsed moves
  active : r.world.socket.active = true
  receives : r.world.socket.receiveFailure = none

/-- How far the exchange of a Request for a reply has come. -/
inductive Exchange (c : Setup) (peer : Ipv4) (w : World) (request : Datagram)
    (moves : List Move) (r : HandshakeRun) : Prop
  | waiting (waits : Waits c w request moves r)
      (rest : r.step c = none → arrived w moves = [] ∧ elapsed moves < c.timeout) :
      Exchange c peer w request moves r
  | expired {early : List Move} (first : early <+: moves) (empty : arrived w early = [])
      (due : c.timeout ≤ elapsed early)
      (state : r.handshake = .finished (.error (.handshakeTimeout (c.timeout / 1000))))
      (events : r.world.events = [.sent request])
      (queued : r.world.socket.inbound = arrived w moves) : Exchange c peer w request moves r
  | decided {reply : Datagram} {rest : List Datagram} {verdict : Except WireError TunnelAddress}
      {before : World} (arrived : arrived w moves = reply :: rest)
      (success : ∀ a, verdict = .ok a ↔ Handshake.Grants c.key reply a)
      (failure : ∀ e, verdict = .error e ↔ Handshake.Refusal c.key (cut reply) e)
      (taken : before.events = [.sent request, .received (cut reply)])
      (state : r.handshake = .finished (Handshake.concluded c peer verdict before).1)
      (events : r.world.events = (Handshake.concluded c peer verdict before).2.events)
      (queued : r.world.socket.inbound = rest) : Exchange c peer w request moves r

private theorem Waits.poll_nil (waits : Waits c w request moves r) (empty : arrived w moves = []) :
    r.step c = if c.timeout ≤ elapsed moves then
      some { r with handshake := .finished (.error (.handshakeTimeout (c.timeout / 1000))) }
    else none := by
  have nothing : r.world.receive? = none := by
    simp [World.receive?, Socket.poll?, waits.active, waits.receives, waits.queued, empty]
  simp only [step, waits.state, Handshake.step, nothing, waits.clock, Nat.add_le_add_iff_left]
  split <;> rfl

private theorem Waits.poll_cons (waits : Waits c w request moves r)
    (ipv4 : c.peer.address = .v4 peer)
    {reply : Datagram} {rest : List Datagram} (first : arrived w moves = reply :: rest) :
    ∃ before : World, before.events = [.sent request, .received (cut reply)] ∧
      before.socket.inbound = rest ∧
      r.step c = some
        ⟨.finished (Handshake.concluded c peer (Handshake.granted c.key (cut reply)) before).1,
          (Handshake.concluded c peer (Handshake.granted c.key (cut reply)) before).2⟩ := by
  have received : r.world.receive? = some (.ok (cut reply),
      { r.world with socket := { r.world.socket with inbound := rest } }.record
        (.received (cut reply))) := by
    simp [World.receive?, Socket.poll?, waits.active, waits.receives, waits.queued, first, cut]
  refine ⟨{ r.world with socket := { r.world.socket with inbound := rest } }.record
    (.received (cut reply)), ?_, rfl, ?_⟩
  · simp [World.record, waits.events]
  · simp only [step, waits.state, Handshake.step, received, Handshake.answer_eq ipv4]
    rfl

theorem Waits.rest (waits : Waits c w request moves r) (ipv4 : c.peer.address = .v4 peer)
    (still : r.step c = none) : arrived w moves = [] ∧ elapsed moves < c.timeout := by
  cases queue : arrived w moves with
  | nil =>
      rw [waits.poll_nil queue] at still
      by_cases due : c.timeout ≤ elapsed moves
      · simp [due] at still
      · exact ⟨rfl, Nat.lt_of_not_le due⟩
  | cons reply rest =>
      obtain ⟨before, -, -, polled⟩ := waits.poll_cons ipv4 queue
      rw [polled] at still
      cases still

theorem Exchange.poll (h : Exchange c peer w request moves r) (ipv4 : c.peer.address = .v4 peer) :
    Exchange c peer w request moves (r.move c .poll) := by
  cases h with
  | waiting waits still =>
      cases queue : arrived w moves with
      | nil =>
          have polled := waits.poll_nil queue
          by_cases due : c.timeout ≤ elapsed moves
          · rw [if_pos due] at polled
            rw [move, polled]
            exact .expired (List.prefix_refl moves) queue due rfl waits.events waits.queued
          · rw [if_neg due] at polled
            rw [move, polled]
            exact .waiting waits still
      | cons reply rest =>
          obtain ⟨before, taken, left, polled⟩ := waits.poll_cons ipv4 queue
          have worked := Handshake.worked_concluded c peer
            (Handshake.granted c.key (cut reply)) before
          rw [move, polled]
          -- what is decided on is the buffer, so the two readings of the datagram have to agree
          refine .decided queue ?_ ?_ taken rfl rfl ?_
          · exact fun a => Handshake.granted_eq_ok_iff.trans Handshake.grants_cut_iff
          · exact fun e => Handshake.granted_eq_error_iff
          · exact (congrArg Socket.inbound worked.socket).trans left
  | expired first empty due state events queued =>
      have finished : r.step c = none := by simp [step, state, Handshake.step]
      rw [move, finished]
      exact .expired first empty due state events queued
  | decided arrived success failure taken state events queued =>
      have finished : r.step c = none := by simp [step, state, Handshake.step]
      rw [move, finished]
      exact .decided arrived success failure taken state events queued

theorem Exchange.finished_iff (h : Exchange c peer w request moves r)
    (ipv4 : c.peer.address = .v4 peer) :
    (∃ outcome, (r.move c .poll).handshake = .finished outcome) ↔
      arrived w moves ≠ [] ∨ c.timeout ≤ elapsed moves := by
  cases h with
  | waiting waits =>
      cases queue : arrived w moves with
      | nil =>
          rw [move, waits.poll_nil queue]
          by_cases due : c.timeout ≤ elapsed moves
          · simp [due]
          · simp [due, waits.state]
      | cons reply rest =>
          obtain ⟨before, -, -, polled⟩ := waits.poll_cons ipv4 queue
          rw [move, polled]
          exact ⟨fun _ => .inl (List.cons_ne_nil reply rest), fun _ => ⟨_, rfl⟩⟩
  | expired first empty due state =>
      have finished : r.step c = none := by simp [step, state, Handshake.step]
      rw [move, finished]
      exact ⟨fun _ => .inr (Nat.le_trans due (elapsed_le first)), fun _ => ⟨_, state⟩⟩
  | decided first success failure taken state =>
      have finished : r.step c = none := by simp [step, state, Handshake.step]
      rw [move, finished, first]
      exact ⟨fun _ => .inl (List.cons_ne_nil _ _), fun _ => ⟨_, state⟩⟩

theorem Exchange.looked (h : Exchange c peer w request moves r) :
    Exchange c peer w request (moves ++ [.poll]) r := by
  have same : arrived w (moves ++ [.poll]) = arrived w moves := by
    simp [arrived_snoc, Move.datagrams]
  have time : elapsed (moves ++ [.poll]) = elapsed moves := by
    simp [elapsed_snoc, Move.milliseconds]
  cases h with
  | waiting waits still =>
      refine .waiting ⟨waits.state, waits.events, ?_, ?_, waits.active, waits.receives⟩ ?_
      · rw [same, waits.queued]
      · rw [time, waits.clock]
      · rwa [same, time]
  | expired first empty due state events queued =>
      exact .expired (first.trans (List.prefix_append ..)) empty due state events
        (queued.trans same.symm)
  | decided first success failure taken state events queued =>
      exact .decided (same.trans first) success failure taken state events queued

theorem Exchange.feel {x : Stimulus} (h : Exchange c peer w request moves r)
    (ipv4 : c.peer.address = .v4 peer) (leaves : x.leavesReceiving = true) :
    Exchange c peer w request (moves ++ [.stimulus x]) (r.move c (.stimulus x)) := by
  obtain ⟨silent, active, receives⟩ := World.feel_of_leavesReceiving leaves r.world
  have inbound := World.inbound_feel x r.world
  have more := arrived_snoc w moves (.stimulus x)
  cases h with
  | waiting waits =>
      have waits' : Waits c w request (moves ++ [.stimulus x]) (r.move c (.stimulus x)) := by
        refine ⟨waits.state, silent.trans waits.events, ?_, ?_,
          active.trans waits.active, receives.trans waits.receives⟩
        · rw [more, ← waits.queued]
          exact inbound
        · rw [elapsed_snoc, ← Nat.add_assoc, ← waits.clock]
          exact World.clock_feel x r.world
      exact .waiting waits' (waits'.rest ipv4)
  | expired first empty due state events queued =>
      refine .expired (first.trans (List.prefix_append ..)) empty due state
        (silent.trans events) ?_
      rw [more, ← queued]
      exact inbound
  | @decided reply rest verdict before first success failure taken state events queued =>
      have first' : arrived w (moves ++ [.stimulus x]) = reply :: (rest ++ x.datagrams) := by
        rw [more, first]
        rfl
      refine .decided first' success failure taken state (silent.trans events) ?_
      rw [← queued]
      exact inbound

theorem Exchange.sent (h : Exchange c peer w request moves r) :
    r.world.outflow.sent = [request] := by
  cases h with
  | waiting waits => simp [World.outflow, waits.events]
  | expired first empty due state events => simp [World.outflow, events]
  | @decided reply rest verdict before arrived success failure taken state events =>
      obtain ⟨es, hes, work⟩ := (Handshake.worked_concluded c peer verdict before).events
      have none : es.filterMap Event.sent? = [] := by
        rw [List.filterMap_eq_nil_iff]
        intro e he
        have := work e he
        cases e <;> simp_all [Event.isHostWork]
      simp only [World.outflow, events, hes, taken, List.filterMap_append, none]
      rfl

theorem exchange_course (ipv4 : c.peer.address = .v4 peer) (sound : w.socket.Sound)
    (leaves : ∀ m ∈ moves, m.leavesReceiving = true) :
    ∃ request, Seal.unwrapFrame c.key request = .ok ⟨.request, []⟩ ∧
      Exchange c peer w request moves (course c w moves) := by
  obtain ⟨request, opens, started⟩ := Handshake.start_of_v4 (w := w.forget) ipv4 sound
  refine ⟨request, opens, ?_⟩
  -- on the last move: what was decided or has expired stays, whatever comes after
  induction moves using List.reverseRecOn with
  | nil =>
      have waits : Waits c w request [] (start c w.forget) := by
        rw [start, started]
        exact ⟨rfl, rfl, (List.append_nil _).symm, rfl, sound.active, sound.receives⟩
      exact .waiting waits (waits.rest ipv4)
  | append_singleton moves m ih =>
      have so := ih fun m' mem => leaves m' (List.mem_append_left _ mem)
      rw [course_snoc]
      cases m with
      | stimulus x =>
          exact so.feel ipv4 (leaves _ (List.mem_append_right _ (List.mem_singleton_self _)))
      | poll => exact (so.poll ipv4).looked

private theorem course_of_v6 {a : Ipv6} (ipv6 : c.peer.address = .v6 a)
    (leaves : ∀ m ∈ moves, m.leavesReceiving = true) :
    (course c w moves).world.events = [] ∧ (course c w moves).handshake =
      .finished (.error (.configInvalid "peer.host" (a.text ++ " is not IPv4"))) := by
  induction moves using List.reverseRecOn with
  | nil =>
      rw [course, List.foldl_nil, start, Handshake.start_of_v6 ipv6]
      exact ⟨rfl, rfl⟩
  | append_singleton moves m ih =>
      obtain ⟨silent, refused⟩ := ih fun m' mem => leaves m' (List.mem_append_left _ mem)
      have leaves' := leaves m (List.mem_append_right _ (List.mem_singleton_self _))
      rw [course_snoc]
      cases m with
      | stimulus x =>
          exact ⟨(World.feel_of_leavesReceiving leaves' _).1.trans silent, refused⟩
      | poll =>
          have finished : (course c w moves).step c = none := by
            simp [step, refused, Handshake.step]
          rw [move, finished]
          exact ⟨silent, refused⟩

theorem Exchange.tunnel (h : Exchange c peer w request moves r) {t : Tunnel}
    (finished : r.handshake = .finished (.ok t)) :
    ∃ reply rest, arrived w moves = reply :: rest ∧ Handshake.Grants c.key reply t.address ∧
      r.world.socket.inbound = rest := by
  cases h with
  | waiting waits =>
      rw [waits.state] at finished
      cases finished
  | expired first empty due state =>
      rw [state] at finished
      cases finished
  | @decided reply rest verdict before arrived success failure taken state events queued =>
      rw [state, Handshake.finished.injEq] at finished
      cases verdict with
      | error e => cases finished
      | ok a =>
          have built : Handshake.setUp c peer a before =
              (.ok t, (Handshake.setUp c peer a before).2) := Prod.ext finished rfl
          have address : t.address = a := congrArg Tunnel.address (Handshake.setUp_eq_ok built).1
          exact ⟨reply, rest, arrived, address ▸ (success a).mp rfl, queued⟩

/-- Whatever comes after the Request and whenever it is looked at: an IPv4 peer is sent the Request
and nothing else, and the first datagram from it decides; once one has come or the time is up, the
next look at the socket ends the handshake.  An IPv6 peer is sent nothing.  With a tunnel the
downlink starts on the datagrams behind the first one. -/
theorem decided_by_first_reply (c : Setup) (w : World) (moves : List Move)
    (sound : w.socket.Sound) (leaves : ∀ m ∈ moves, m.leavesReceiving = true) :
    (∀ peer, c.peer.address = .v4 peer → ∃ request,
      Seal.unwrapFrame c.key request = .ok ⟨.request, []⟩ ∧
        (course c w moves).world.outflow.sent = [request] ∧
        Exchange c peer w request moves (course c w moves) ∧
        ((∃ outcome, (course c w (moves ++ [.poll])).handshake = .finished outcome) ↔
          arrived w moves ≠ [] ∨ c.timeout ≤ elapsed moves)) ∧
    (∀ a, c.peer.address = .v6 a →
      (course c w moves).world.events = [] ∧ (course c w moves).handshake =
        .finished (.error (.configInvalid "peer.host" (a.text ++ " is not IPv4")))) ∧
    ∀ (t : Tunnel) (s : Session), (course c w moves).handshake = .finished (.ok t) →
      s.phase = .handshaking → ∃ reply rest, arrived w moves = reply :: rest ∧
        Handshake.Grants c.key reply t.address ∧
        ((s.withWorld (course c w moves).world).afterHandshake (.finished (.ok t))).downlink =
          .running .waiting ∧
        ((s.withWorld (course c w moves).world).afterHandshake
          (.finished (.ok t))).world.socket.inbound = rest := by
  refine ⟨?_, fun a ipv6 => course_of_v6 ipv6 leaves, ?_⟩
  · intro peer ipv4
    obtain ⟨request, opens, exchange⟩ := exchange_course ipv4 sound leaves
    refine ⟨request, opens, exchange.sent, exchange, ?_⟩
    rw [course_snoc]
    exact exchange.finished_iff ipv4
  · intro t s finished phase
    cases address : c.peer.address with
    | v6 a =>
        rw [(course_of_v6 address leaves).2] at finished
        cases finished
    | v4 peer =>
        obtain ⟨request, -, exchange⟩ := exchange_course address sound leaves
        obtain ⟨reply, rest, first, grants, left⟩ := exchange.tunnel finished
        obtain ⟨downlink, socket⟩ :=
          Session.afterHandshake_ok (s := s.withWorld (course c w moves).world) phase t
        exact ⟨reply, rest, first, grants, downlink, (congrArg Socket.inbound socket).trans left⟩

/-- An Accept for 10.0.0.2 comes first; two datagrams that open to nothing come behind it. -/
def trial : List Move :=
  [.stimulus (.datagram Session.Trial.grant), .stimulus (.datagram [1]), .poll, .poll,
   .stimulus (.elapse 9000), .stimulus (.datagram [2]), .poll]

theorem trial_decided :
    Session.Trial.world.socket.Sound ∧ (∀ m ∈ trial, m.leavesReceiving = true) ∧
      (course Session.Trial.setup Session.Trial.world trial).world.socket.inbound = [[1], [2]] ∧
      ∃ request, Seal.unwrapFrame Session.Trial.key request = .ok ⟨.request, []⟩ ∧
        (course Session.Trial.setup Session.Trial.world trial).world.outflow.sent = [request] ∧
        Exchange Session.Trial.setup ⟨0xC0000201⟩ Session.Trial.world request trial
          (course Session.Trial.setup Session.Trial.world trial) ∧
        ((∃ outcome, (course Session.Trial.setup Session.Trial.world
            (trial ++ [.poll])).handshake = .finished outcome) ↔
          arrived Session.Trial.world trial ≠ [] ∨ 5000 ≤ elapsed trial) := by
  have sound : Session.Trial.world.socket.Sound := ⟨rfl, rfl, rfl, rfl, rfl⟩
  have leaves : ∀ m ∈ trial, m.leavesReceiving = true := by decide
  have left : (course Session.Trial.setup Session.Trial.world trial).world.socket.inbound =
      [[1], [2]] := by
    decide +kernel
  exact ⟨sound, leaves, left,
    (decided_by_first_reply Session.Trial.setup Session.Trial.world trial sound leaves).1 _ rfl⟩

end HandshakeRun

end TunnelClient
