import Mathlib.Data.List.Induction
import TunnelClient.Udp.Transport

/-!
# Courses of a socket

Courses of a socket whose peer stays: calls begin, go on in any order and end, datagrams arrive, and
the socket is shut down.  A call that waits looks when it has just begun and whenever it is woken; a
datagram that arrives and a shutdown wake all that sleep.
-/

namespace TunnelClient

/-- A socket with its history.  `receivers` holds the receive calls begun with the sizes of their
buffers, `asleep` those that found nothing when they last looked and have not been woken since,
`sending` the sends that have begun and not ended, and `replies` what ended sends gave. -/
structure SocketRun where
  transport : Udp.Transport
  receivers : List (Nat × Nat) := []
  asleep : List Nat := []
  sending : List (Nat × Datagram) := []
  sends : Nat := 0
  replies : List (Nat × Except HostError Nat) := []
  arrived : List Datagram := []

namespace SocketRun

open Udp (Receiver Receipt Transport)

inductive Move where
  | receive (capacity : Nat)
  | look (caller : Nat) (obey : Bool)
  | send (d : Datagram)
  | transmit (call : Nat)
  | arrive (d : Datagram)
  | shutdown
  deriving DecidableEq, Repr

def beginReceive (capacity : Nat) (r : SocketRun) : SocketRun :=
  { r with
    transport := r.transport.enter ⟨r.receivers.length, capacity⟩
    receivers := r.receivers ++ [(r.receivers.length, capacity)] }

/-- A call that finds nothing goes to sleep. -/
def look (caller : Nat) (obey : Bool) (r : SocketRun) : SocketRun :=
  match r.transport.waiting.find? (·.caller == caller) with
  | none => r
  | some w =>
    let after := r.transport.look obey w
    if w ∈ after.waiting then { r with transport := after, asleep := caller :: r.asleep }
    else { r with transport := after }

def beginSend (d : Datagram) (r : SocketRun) : SocketRun :=
  match r.transport.checkOpen with
  | .error e => { r with sends := r.sends + 1, replies := r.replies ++ [(r.sends, .error e)] }
  | .ok () => { r with sends := r.sends + 1, sending := r.sending ++ [(r.sends, d)] }

def transmit (call : Nat) (r : SocketRun) : SocketRun :=
  match r.sending.find? (·.1 == call) with
  | none => r
  | some (_, d) =>
    { r with
      transport := (r.transport.transmit d).2
      sending := r.sending.filter (·.1 != call)
      replies := r.replies ++ [(call, (r.transport.transmit d).1)] }

def move (r : SocketRun) : Move → SocketRun
  | .receive capacity => r.beginReceive capacity
  | .look caller obey => r.look caller obey
  | .send d => r.beginSend d
  | .transmit call => r.transmit call
  | .arrive d =>
    { r with transport := r.transport.arrive d, asleep := [], arrived := r.arrived ++ [d] }
  | .shutdown => { r with transport := r.transport.shutdown, asleep := [] }

def run (r : SocketRun) (moves : List Move) : SocketRun := moves.foldl move r

def begun (t : Transport) : SocketRun := { transport := t }

/-! ## What one move does -/

inductive Look (w : Receiver) (obey : Bool) (t : Transport) : Transport → Prop
  | take {d : Datagram} {rest : List Datagram} (queue : t.queue = d :: rest)
      (unheeded : t.closed = false ∨ obey = false) :
      Look w obey t ({ t with queue := rest }.finish w (.datagram (d.take w.capacity)))
  | leave (closed : t.closed = true) (heeded : t.queue = [] ∨ obey = true) :
      Look w obey t (t.finish w (.failed .shuttingDown))
  | sleep (isOpen : t.closed = false) (queue : t.queue = []) : Look w obey t t

theorem look_cases {t : Transport} (fault : t.fault = none) (w : Receiver) (obey : Bool) :
    Look w obey t (t.look obey w) := by
  cases queue : t.queue with
  | nil =>
      cases closed : t.closed with
      | false =>
          have eq : t.look obey w = t := by
            simp [Transport.look, Transport.poll?, fault, queue, closed]
          rw [eq]
          exact .sleep closed queue
      | true =>
          have eq : t.look obey w = t.finish w (.failed .shuttingDown) := by
            simp [Transport.look, Transport.poll?, fault, queue, closed]
          rw [eq]
          exact .leave closed (.inl queue)
  | cons d rest =>
      have found : t.poll? w.capacity =
          some (.datagram (d.take w.capacity), { t with queue := rest }) := by
        simp only [Transport.poll?, fault, queue]
      cases heeds : t.closed && obey with
      | false =>
          have eq : t.look obey w =
              { t with queue := rest }.finish w (.datagram (d.take w.capacity)) := by
            simp [Transport.look, found, heeds]
          rw [eq]
          exact .take queue (Bool.and_eq_false_iff.mp heeds)
      | true =>
          have eq : t.look obey w = t.finish w (.failed .shuttingDown) := by
            simp [Transport.look, found, heeds]
          rw [eq]
          obtain ⟨closed, obeys⟩ := Bool.and_eq_true_iff.mp heeds
          exact .leave closed (.inr obeys)

inductive MoveStep (r : SocketRun) : Move → SocketRun → Prop
  | wait {capacity : Nat} (isOpen : r.transport.closed = false) :
      MoveStep r (.receive capacity)
        { r with
          transport := { r.transport with
            waiting := r.transport.waiting ++ [⟨r.receivers.length, capacity⟩] }
          receivers := r.receivers ++ [(r.receivers.length, capacity)] }
  | refuse {capacity : Nat} (closed : r.transport.closed = true) :
      MoveStep r (.receive capacity)
        { r with
          transport := r.transport.finish ⟨r.receivers.length, capacity⟩ (.failed .shuttingDown)
          receivers := r.receivers ++ [(r.receivers.length, capacity)] }
  | take {w : Receiver} {obey : Bool} {d : Datagram} {rest : List Datagram}
      (waits : w ∈ r.transport.waiting) (queue : r.transport.queue = d :: rest)
      (unheeded : r.transport.closed = false ∨ obey = false) :
      MoveStep r (.look w.caller obey)
        { r with
          transport :=
            { r.transport with queue := rest }.finish w (.datagram (d.take w.capacity)) }
  | leave {w : Receiver} {obey : Bool} (waits : w ∈ r.transport.waiting)
      (closed : r.transport.closed = true) (heeded : r.transport.queue = [] ∨ obey = true) :
      MoveStep r (.look w.caller obey)
        { r with transport := r.transport.finish w (.failed .shuttingDown) }
  | sleep {w : Receiver} {obey : Bool} (waits : w ∈ r.transport.waiting)
      (isOpen : r.transport.closed = false) (queue : r.transport.queue = []) :
      MoveStep r (.look w.caller obey) { r with asleep := w.caller :: r.asleep }
  | gone {caller : Nat} {obey : Bool} (gone : ∀ w ∈ r.transport.waiting, w.caller ≠ caller) :
      MoveStep r (.look caller obey) r
  | pass {d : Datagram} (isOpen : r.transport.closed = false) :
      MoveStep r (.send d)
        { r with sends := r.sends + 1, sending := r.sending ++ [(r.sends, d)] }
  | reject {d : Datagram} (closed : r.transport.closed = true) :
      MoveStep r (.send d)
        { r with
          sends := r.sends + 1
          replies := r.replies ++ [(r.sends, .error .shuttingDown)] }
  | transmit {call : Nat} {d : Datagram} (begun : (call, d) ∈ r.sending) :
      MoveStep r (.transmit call)
        { r with
          transport := { r.transport with sent := r.transport.sent ++ [d], fault := none }
          sending := r.sending.filter (·.1 != call)
          replies := r.replies ++ [(call, .ok d.length)] }
  | overlong {call : Nat} {d : Datagram} {e : HostError} (begun : (call, d) ∈ r.sending)
      (other : e ≠ .shuttingDown) :
      MoveStep r (.transmit call)
        { r with
          sending := r.sending.filter (·.1 != call)
          replies := r.replies ++ [(call, .error e)] }
  | ended {call : Nat} (ended : ∀ d, (call, d) ∉ r.sending) : MoveStep r (.transmit call) r
  | arrive {d : Datagram} :
      MoveStep r (.arrive d)
        { r with
          transport := { r.transport with queue := r.transport.queue ++ [d] }
          asleep := []
          arrived := r.arrived ++ [d] }
  | shutdown :
      MoveStep r .shutdown { r with transport := { r.transport with closed := true }, asleep := [] }

variable {r r' : SocketRun} {m : Move}

/-- The network reports nothing as long as the peer stays. -/
structure Undisturbed (t : Transport) : Prop where
  fault : t.fault = none
  peer : t.peerGone = false

private theorem checkOpen_of_open {t : Transport} (isOpen : t.closed = false) :
    t.checkOpen = .ok () := by
  simp [Transport.checkOpen, isOpen]

theorem checkOpen_of_closed {t : Transport} (closed : t.closed = true) :
    t.checkOpen = .error .shuttingDown := by
  simp [Transport.checkOpen, closed]

private theorem transmit_of_short {t : Transport} (undisturbed : Undisturbed t) {d : Datagram}
    (short : ¬ Transport.maxPayload < d.length) :
    t.transmit d = (.ok d.length, { t with sent := t.sent ++ [d], fault := none }) := by
  simp [Transport.transmit, undisturbed.fault, undisturbed.peer, short]

private theorem transmit_of_long {t : Transport} (undisturbed : Undisturbed t) {d : Datagram}
    (long : Transport.maxPayload < d.length) :
    t.transmit d = (.error (.sendFailed t.peer Transport.tooLong.message), t) := by
  simp only [Transport.transmit, undisturbed.fault, if_pos long]

private theorem step_receive (r : SocketRun) (capacity : Nat) :
    MoveStep r (.receive capacity) (r.beginReceive capacity) := by
  cases closed : r.transport.closed with
  | false =>
      simp only [beginReceive, Transport.enter, checkOpen_of_open closed]
      exact .wait closed
  | true =>
      simp only [beginReceive, Transport.enter, checkOpen_of_closed closed]
      exact .refuse closed

private theorem notMem_waiting_finish {t : Transport} {w : Receiver} {receipt : Receipt} :
    w ∉ (t.finish w receipt).waiting := by
  simp [Transport.finish]

private theorem step_look (undisturbed : Undisturbed r.transport) (caller : Nat) (obey : Bool) :
    MoveStep r (.look caller obey) (r.look caller obey) := by
  cases found : r.transport.waiting.find? (·.caller == caller) with
  | none =>
      simp only [look, found]
      exact .gone fun w mem => by simpa using List.find?_eq_none.mp found w mem
  | some w =>
      have waits := List.mem_of_find?_eq_some found
      have same : w.caller = caller := by simpa using List.find?_some found
      subst same
      simp only [look, found]
      have turns := look_cases undisturbed.fault w obey
      generalize r.transport.look obey w = after at turns
      cases turns with
      | take queue unheeded =>
          rw [if_neg notMem_waiting_finish]
          exact .take waits queue unheeded
      | leave closed heeded =>
          rw [if_neg notMem_waiting_finish]
          exact .leave waits closed heeded
      | sleep isOpen queue =>
          rw [if_pos waits]
          exact .sleep waits isOpen queue

private theorem step_send (r : SocketRun) (d : Datagram) :
    MoveStep r (.send d) (r.beginSend d) := by
  cases closed : r.transport.closed with
  | false =>
      simp only [beginSend, checkOpen_of_open closed]
      exact .pass closed
  | true =>
      simp only [beginSend, checkOpen_of_closed closed]
      exact .reject closed

private theorem step_transmit (undisturbed : Undisturbed r.transport) (call : Nat) :
    MoveStep r (.transmit call) (r.transmit call) := by
  cases found : r.sending.find? (·.1 == call) with
  | none =>
      simp only [transmit, found]
      exact .ended fun d mem => by simpa using List.find?_eq_none.mp found _ mem
  | some begun =>
      obtain ⟨call', d⟩ := begun
      have mem := List.mem_of_find?_eq_some found
      have same : call' = call := by simpa using List.find?_some found
      subst same
      simp only [transmit, found]
      by_cases long : Transport.maxPayload < d.length
      · rw [transmit_of_long undisturbed long]
        exact .overlong mem HostError.noConfusion
      · rw [transmit_of_short undisturbed long]
        exact .transmit mem

theorem move_cases (undisturbed : Undisturbed r.transport) (m : Move) :
    MoveStep r m (r.move m) := by
  cases m with
  | receive capacity => exact step_receive r capacity
  | look caller obey => exact step_look undisturbed caller obey
  | send d => exact step_send r d
  | transmit call => exact step_transmit undisturbed call
  | arrive d => exact .arrive
  | shutdown => exact .shutdown

theorem MoveStep.undisturbed (h : MoveStep r m r') (undisturbed : Undisturbed r.transport) :
    Undisturbed r'.transport := by
  cases h with
  | wait | refuse | take | leave | sleep | gone | pass | reject | overlong | ended | arrive
  | shutdown => exact ⟨undisturbed.fault, undisturbed.peer⟩
  | transmit => exact ⟨rfl, undisturbed.peer⟩

theorem run_append (r : SocketRun) (first second : List Move) :
    run r (first ++ second) = run (run r first) second :=
  List.foldl_append ..

theorem run_induction {P : List Move → SocketRun → Prop} (undisturbed : Undisturbed r.transport)
    (start : P [] r) (step : ∀ moves m r r', MoveStep r m r' → P moves r → P (moves ++ [m]) r')
    (moves : List Move) : P moves (run r moves) ∧ Undisturbed (run r moves).transport := by
  induction moves using List.reverseRecOn with
  | nil => exact ⟨start, undisturbed⟩
  | append_singleton moves m ih =>
      obtain ⟨holds, undisturbed'⟩ := ih
      have hstep := move_cases undisturbed' m
      rw [run_append]
      exact ⟨step moves m _ _ hstep holds, hstep.undisturbed undisturbed'⟩

end SocketRun

end TunnelClient
