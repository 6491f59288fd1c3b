import Mathlib.Data.List.Nodup
import Mathlib.Data.List.Perm.Subperm
import TunnelClient.Proofs.Calls.Account
import TunnelClient.Proofs.Udp.Course

/-!
# Shutting a socket down

Shutting a socket down is final and complete.  Nothing is refused before.  From then on every call
that begins is refused, every call that waits is awake and ends when it looks, and no datagram is
sent but those of sends that had begun.  All along, the datagrams that calls take are the first that
arrived, in order and each once.
-/

namespace TunnelClient.SocketRun

open Udp (Receiver Receipt Transport)

def taken (returned : List (Nat × Receipt)) : List (Nat × Datagram) :=
  returned.filterMap fun
    | (caller, .datagram d) => some (caller, d)
    | (_, .failed _) => none

structure NoneRefused (returned : List (Nat × Receipt))
    (replies : List (Nat × Except HostError Nat)) : Prop where
  receives : ∀ call ∈ returned, call.2 ≠ .failed .shuttingDown
  sends : ∀ reply ∈ replies, reply.2 ≠ .error .shuttingDown

/-- What holds at any time.  Every call ends at most once; what has arrived is queued or was taken
by one of the calls, cut to its buffer; and a call sleeps only while the socket is open and has
nothing for it. -/
structure Orderly (r : SocketRun) : Prop where
  numbers : r.receivers.map Prod.fst = List.range r.receivers.length
  known : ∀ w ∈ r.transport.waiting, (w.caller, w.capacity) ∈ r.receivers
  receives : Once (r.transport.waiting.map Receiver.caller) (r.transport.returned.map Prod.fst)
    r.receivers.length
  sends : Once (r.sending.map Prod.fst) (r.replies.map Prod.fst) r.sends
  datagrams : HandedOver r.receivers r.arrived r.transport.queue (taken r.transport.returned)
  awake : r.asleep ≠ [] → r.transport.closed = false ∧ r.transport.queue = []
  unrefused : r.transport.closed = false → NoneRefused r.transport.returned r.replies

variable {r r' s : SocketRun} {m : Move}

private theorem known_finish {t : Transport} {w : Receiver} {receipt : Receipt}
    {receivers : List (Nat × Nat)}
    (known : ∀ other ∈ t.waiting, (other.caller, other.capacity) ∈ receivers) :
    ∀ other ∈ (t.finish w receipt).waiting, (other.caller, other.capacity) ∈ receivers :=
  fun _ mem => known _ (List.mem_filter.mp mem).1

private theorem callers_finish (t : Transport) (w : Receiver) (receipt : Receipt) :
    (t.finish w receipt).waiting.map Receiver.caller =
      (t.waiting.map Receiver.caller).filter (· != w.caller) := by
  rw [List.filter_map]
  rfl

private theorem once_finish {t : Transport} {w : Receiver} {receipt : Receipt} {begun : Nat}
    (receives : Once (t.waiting.map Receiver.caller) (t.returned.map Prod.fst) begun)
    (waits : w ∈ t.waiting) :
    Once ((t.finish w receipt).waiting.map Receiver.caller)
      ((t.finish w receipt).returned.map Prod.fst) begun := by
  have returned : (t.finish w receipt).returned = t.returned ++ [(w.caller, receipt)] := rfl
  rw [callers_finish, returned, List.map_append]
  exact receives.finish (List.mem_map_of_mem waits)

private theorem finish_of_fresh {t : Transport} {w : Receiver} {receipt : Receipt}
    (fresh : w.caller ∉ t.waiting.map Receiver.caller) :
    t.finish w receipt = { t with returned := t.returned ++ [(w.caller, receipt)] } := by
  have kept : t.waiting.filter (·.caller != w.caller) = t.waiting :=
    List.filter_eq_self.mpr fun other mem => bne_iff_ne.mpr fun same =>
      fresh (List.mem_map.mpr ⟨other, mem, same⟩)
  rw [Transport.finish, kept]

private theorem numbers_next {receivers : List (Nat × Nat)} {capacity : Nat}
    (numbers : receivers.map Prod.fst = List.range receivers.length) :
    (receivers ++ [(receivers.length, capacity)]).map Prod.fst =
      List.range (receivers ++ [(receivers.length, capacity)]).length := by
  rw [List.map_append, numbers, List.length_append, List.length_singleton, List.range_succ]
  rfl

private theorem once_end_send {sending : List (Nat × Datagram)}
    {replies : List (Nat × Except HostError Nat)} {begun call : Nat} {d : Datagram}
    {reply : Except HostError Nat}
    (sends : Once (sending.map Prod.fst) (replies.map Prod.fst) begun) (mem : (call, d) ∈ sending) :
    Once ((sending.filter (·.1 != call)).map Prod.fst)
      ((replies ++ [(call, reply)]).map Prod.fst) begun := by
  have callers : (sending.filter (·.1 != call)).map Prod.fst =
      (sending.map Prod.fst).filter (· != call) := by
    rw [List.filter_map]
    rfl
  rw [callers, List.map_append]
  exact sends.finish (List.mem_map_of_mem mem)

theorem NoneRefused.receive {returned : List (Nat × Receipt)}
    {replies : List (Nat × Except HostError Nat)} (h : NoneRefused returned replies) (caller : Nat)
    (d : Datagram) : NoneRefused (returned ++ [(caller, .datagram d)]) replies := by
  refine ⟨fun call mem => ?_, h.sends⟩
  rcases List.mem_append.mp mem with mem | mem
  · exact h.receives call mem
  · rw [List.mem_singleton.mp mem]
    exact Receipt.noConfusion

theorem NoneRefused.send {returned : List (Nat × Receipt)}
    {replies : List (Nat × Except HostError Nat)} (h : NoneRefused returned replies) (call : Nat)
    {reply : Except HostError Nat} (other : reply ≠ .error .shuttingDown) :
    NoneRefused returned (replies ++ [(call, reply)]) := by
  refine ⟨h.receives, fun answer mem => ?_⟩
  rcases List.mem_append.mp mem with mem | mem
  · exact h.sends answer mem
  · rw [List.mem_singleton.mp mem]
    exact other

theorem MoveStep.orderly (h : MoveStep r m r') (orderly : Orderly r) : Orderly r' := by
  obtain ⟨numbers, known, receives, sends, datagrams, awake, unrefused⟩ := orderly
  have more (capacity : Nat) := datagrams.mono
    (List.subset_append_left r.receivers [(r.receivers.length, capacity)])
  have stillKnown (capacity : Nat) (w : Receiver) (mem : w ∈ r.transport.waiting) :
      (w.caller, w.capacity) ∈ r.receivers ++ [(r.receivers.length, capacity)] :=
    List.mem_append_left _ (known w mem)
  cases h with
  | @wait capacity isOpen =>
      refine ⟨numbers_next numbers, ?_, ?_, sends, more capacity, awake, unrefused⟩
      · intro w mem
        rcases List.mem_append.mp mem with mem | mem
        · exact stillKnown capacity w mem
        · rw [List.mem_singleton.mp mem]
          exact List.mem_append_right _ (List.mem_singleton_self _)
      · rw [List.map_append, List.length_append]
        exact receives.begin
  | @refuse capacity closed =>
      -- Its number is new, so that no call stops waiting.
      rw [finish_of_fresh receives.fresh]
      refine ⟨numbers_next numbers, stillKnown capacity, ?_, sends, ?_, awake, ?_⟩
      · rw [List.map_append, List.length_append]
        exact receives.refuse
      · simpa [taken] using more capacity
      · exact fun isOpen => absurd (closed.symm.trans isOpen) Bool.noConfusion
  | @take w obey d rest waits queue unheeded =>
      refine ⟨numbers, known_finish known, once_finish receives waits, sends, ?_, ?_, ?_⟩
      · rw [queue] at datagrams
        simpa [taken, Transport.finish] using datagrams.take (known w waits)
      · exact fun sleeps => absurd (queue.symm.trans (awake sleeps).2) (List.cons_ne_nil _ _)
      · exact fun isOpen => (unrefused isOpen).receive w.caller _
  | @leave w obey waits closed heeded =>
      refine ⟨numbers, known_finish known, once_finish receives waits, sends, ?_, awake, ?_⟩
      · simpa [taken, Transport.finish] using datagrams
      · exact fun isOpen => absurd (closed.symm.trans isOpen) Bool.noConfusion
  | sleep waits isOpen queue =>
      exact ⟨numbers, known, receives, sends, datagrams, fun _ => ⟨isOpen, queue⟩, unrefused⟩
  | gone | ended => exact ⟨numbers, known, receives, sends, datagrams, awake, unrefused⟩
  | pass isOpen =>
      refine ⟨numbers, known, receives, ?_, datagrams, awake, unrefused⟩
      rw [List.map_append]
      exact sends.begin
  | reject closed =>
      refine ⟨numbers, known, receives, ?_, datagrams, awake, ?_⟩
      · rw [List.map_append]
        exact sends.refuse
      · exact fun isOpen => absurd (closed.symm.trans isOpen) Bool.noConfusion
  | @transmit call d begun =>
      refine ⟨numbers, known, receives, once_end_send sends begun, datagrams, awake, ?_⟩
      exact fun isOpen => (unrefused isOpen).send call (by simp)
  | @overlong call d e begun other =>
      refine ⟨numbers, known, receives, once_end_send sends begun, datagrams, awake, ?_⟩
      exact fun isOpen => (unrefused isOpen).send call fun same => other (Except.error.inj same)
  | arrive =>
      exact ⟨numbers, known, receives, sends, datagrams.add _, fun sleeps => absurd rfl sleeps,
        unrefused⟩
  | shutdown =>
      exact ⟨numbers, known, receives, sends, datagrams, fun sleeps => absurd rfl sleeps,
        Bool.noConfusion⟩

/-! ## After the shutdown -/

/-- What is so of `r` when `s` was shut down: no result is taken back, every call begun since is
refused, and what was sent since is of sends that had begun. -/
structure Ended (s r : SocketRun) : Prop where
  closed : r.transport.closed = true
  results : s.transport.returned <+: r.transport.returned
  receives : ∀ caller, s.receivers.length ≤ caller → caller < r.receivers.length →
    (caller, .failed .shuttingDown) ∈ r.transport.returned
  sends : ∀ call, s.sends ≤ call → call < r.sends → (call, .error .shuttingDown) ∈ r.replies
  sent : ∃ late : List (Nat × Datagram), (late ++ r.sending).Subperm s.sending ∧
    r.transport.sent = s.transport.sent ++ late.map Prod.snd

private theorem ended_shutdown (s : SocketRun) : Ended s (s.move .shutdown) where
  closed := rfl
  results := List.prefix_refl _
  receives _ since before := absurd since (Nat.not_le_of_lt before)
  sends _ since before := absurd since (Nat.not_le_of_lt before)
  sent := ⟨[], List.Subperm.refl _, (List.append_nil _).symm⟩

theorem Ended.receive {t : Transport} (h : Ended s r) (call : Nat × Receipt)
    (returned : t.returned = r.transport.returned ++ [call])
    (closed : t.closed = r.transport.closed) (sent : t.sent = r.transport.sent) :
    Ended s { r with transport := t } where
  closed := closed.trans h.closed
  results := by
    rw [returned]
    exact h.results.trans (List.prefix_append _ _)
  receives caller since before := by
    rw [returned]
    exact List.mem_append_left _ (h.receives caller since before)
  sends := h.sends
  sent := by
    rw [sent]
    exact h.sent

theorem ended_of_step (h : MoveStep r m r') (orderly : Orderly r) (ended : Ended s r) :
    Ended s r' := by
  have isClosed (isOpen : r.transport.closed = false) : False := by
    rw [ended.closed] at isOpen
    cases isOpen
  cases h with
  | wait isOpen | sleep _ isOpen | pass isOpen => exact (isClosed isOpen).elim
  | @refuse capacity closed =>
      rw [finish_of_fresh orderly.receives.fresh]
      refine { ended with results := ended.results.trans (List.prefix_append _ _), receives := ?_ }
      intro caller since before
      rw [List.length_append, List.length_singleton] at before
      rcases Nat.lt_succ_iff_lt_or_eq.mp before with before | rfl
      · exact List.mem_append_left _ (ended.receives caller since before)
      · exact List.mem_append_right _ (List.mem_singleton_self _)
  | take | leave => exact ended.receive _ rfl rfl rfl
  | gone | ended => exact ended
  | reject closed =>
      refine { ended with sends := ?_ }
      intro call since before
      rcases Nat.lt_succ_iff_lt_or_eq.mp before with before | rfl
      · exact List.mem_append_left _ (ended.sends call since before)
      · exact List.mem_append_right _ (List.mem_singleton_self _)
  | @transmit call d begun =>
      -- The send had begun when the socket was shut down, and it is pending no longer.
      obtain ⟨late, within, sent⟩ := ended.sent
      have one : ((call, d) :: r.sending.filter (·.1 != call)).Subperm r.sending :=
        List.cons_subperm_of_not_mem_of_mem (by simp) begun List.filter_sublist.subperm
      refine { ended with sends := ?_, sent := ⟨late ++ [(call, d)], ?_, ?_⟩ }
      · exact fun other since before => List.mem_append_left _ (ended.sends other since before)
      · rw [List.append_assoc]
        exact ((List.subperm_append_left late).mpr one).trans within
      · rw [List.map_append, ← List.append_assoc, ← sent]
        rfl
  | @overlong call d e begun other =>
      obtain ⟨late, within, sent⟩ := ended.sent
      refine { ended with sends := ?_, sent := ⟨late, ?_, sent⟩ }
      · exact fun other since before => List.mem_append_left _ (ended.sends other since before)
      · exact ((List.subperm_append_left late).mpr List.filter_sublist.subperm).trans within
  | arrive => exact { ended with closed := ended.closed }
  | shutdown => exact { ended with closed := rfl }

/-! ## Calls that were waiting -/

private theorem closed_look {t : Transport} (fault : t.fault = none) (closed : t.closed = true)
    (w : Receiver) (obey : Bool) :
    (t.look obey w).waiting = t.waiting.filter (·.caller != w.caller) ∧
      (t.look obey w).closed = true ∧ (t.look obey w).fault = none := by
  have turns := look_cases fault w obey
  generalize t.look obey w = after at turns
  cases turns with
  | take | leave => exact ⟨rfl, closed, fault⟩
  | sleep isOpen =>
      rw [closed] at isOpen
      cases isOpen

private theorem waiting_foldl_look {t : Transport} (fault : t.fault = none)
    (closed : t.closed = true) (looking : List Receiver) :
    (looking.foldl (fun t w => t.look false w) t).waiting ⊆
      t.waiting.filter fun w => w.caller ∉ looking.map Receiver.caller := by
  induction looking generalizing t with
  | nil => simp
  | cons w rest ih =>
      obtain ⟨waiting, closed', fault'⟩ := closed_look fault closed w false
      intro other mem
      have still := ih fault' closed' mem
      rw [waiting, List.mem_filter, List.mem_filter] at still
      simpa [and_assoc] using still

theorem settle_of_closed {t : Transport} (fault : t.fault = none) (closed : t.closed = true) :
    t.settle.waiting = [] := by
  refine List.eq_nil_iff_forall_not_mem.mpr fun w mem => ?_
  obtain ⟨waits, others⟩ := List.mem_filter.mp (waiting_foldl_look fault closed t.waiting mem)
  exact of_decide_eq_true others (List.mem_map_of_mem waits)

private theorem look_of_closed (undisturbed : Undisturbed r.transport)
    (closed : r.transport.closed = true)
    {w : Receiver} (waits : w ∈ r.transport.waiting) (obey : Bool) :
    w ∉ (r.move (.look w.caller obey)).transport.waiting ∧
      (r.transport.queue = [] → (r.move (.look w.caller obey)).transport =
        r.transport.finish w (.failed .shuttingDown)) := by
  have step := move_cases undisturbed (.look w.caller obey)
  generalize r.move (.look w.caller obey) = after at step
  generalize asked : Move.look w.caller obey = m at step
  cases step with
  | @take other _ _ _ _ queue =>
      obtain ⟨same, -⟩ := Move.look.inj asked
      refine ⟨by simp [Transport.finish, same], fun nothing => ?_⟩
      rw [queue] at nothing
      cases nothing
  | @leave other =>
      obtain ⟨same, -⟩ := Move.look.inj asked
      exact ⟨by simp [Transport.finish, same], fun _ => by simp [Transport.finish, same]⟩
  | sleep _ isOpen =>
      rw [closed] at isOpen
      cases isOpen
  | gone gone =>
      obtain ⟨same, -⟩ := Move.look.inj asked
      exact absurd same (gone w waits)
  | wait | refuse | pass | reject | transmit | overlong | ended | arrive | shutdown => cases asked

/-- What is so of `r` at any time after `s` was shut down, and what every call made then meets. -/
structure ShutDown (s r : SocketRun) : Prop where
  ended : Ended s r
  inactive : r.transport.isActive = false
  again : r.move .shutdown = r
  receive : ∀ w : Receiver, w.caller ∉ r.transport.waiting.map Receiver.caller →
    r.transport.receive w =
      { r.transport with
        returned := r.transport.returned ++ [(w.caller, .failed .shuttingDown)] }
  send : ∀ d, r.transport.send d = (.error .shuttingDown, r.transport)
  awake : r.asleep = []
  ends : ∀ w ∈ r.transport.waiting, ∀ obey, w ∉ (r.move (.look w.caller obey)).transport.waiting
  refused : r.transport.queue = [] → ∀ w ∈ r.transport.waiting, ∀ obey,
    (r.move (.look w.caller obey)).transport = r.transport.finish w (.failed .shuttingDown)
  settled : r.transport.settle.waiting = []

theorem shutDown_of_ended (undisturbed : Undisturbed r.transport) (orderly : Orderly r)
    (ended : Ended s r) : ShutDown s r := by
  -- Only on an open socket does a call go on sleeping.
  have asleep : r.asleep = [] := by
    cases sleeps : r.asleep with
    | nil => rfl
    | cons caller rest =>
        have isOpen := (orderly.awake (by simp [sleeps])).1
        rw [ended.closed] at isOpen
        cases isOpen
  refine ⟨ended, ?_, ?_, ?_, ?_, asleep, ?_, ?_, settle_of_closed undisturbed.fault ended.closed⟩
  · simp [Transport.isActive, ended.closed]
  · have same : r.transport.shutdown = r.transport := by rw [Transport.shutdown, ← ended.closed]
    change { r with transport := r.transport.shutdown, asleep := [] } = r
    rw [same, ← asleep]
  · intro w fresh
    rw [Transport.receive, if_pos ended.closed, Transport.enter, checkOpen_of_closed ended.closed]
    exact finish_of_fresh fresh
  · intro d
    rw [Transport.send, checkOpen_of_closed ended.closed]
  · exact fun w waits obey => (look_of_closed undisturbed ended.closed waits obey).1
  · exact fun nothing w waits obey =>
      (look_of_closed undisturbed ended.closed waits obey).2 nothing

/-! ## Whole courses -/

theorem connectFrom_eq_ok {n : Network} {address peer : Endpoint} {t : Transport}
    (connected : Udp.connectFrom n address peer = .ok t) :
    ∃ bound, t = { localAddress := bound, peer := peer } := by
  rw [Udp.connectFrom] at connected
  cases bind : n.bind address with
  | error e =>
      rw [bind] at connected
      cases connected
  | ok bound =>
      rw [bind] at connected
      cases connect : n.connect bound peer with
      | error e =>
          simp only [connect] at connected
          cases connected
      | ok =>
          simp only [connect] at connected
          cases connected
          exact ⟨bound, rfl⟩

private theorem orderly_begun (bound peer : Endpoint) :
    Orderly (begun { localAddress := bound, peer := peer }) where
  numbers := rfl
  known _ mem := nomatch mem
  receives := List.Perm.nil
  sends := List.Perm.nil
  datagrams := .start []
  awake sleeps := absurd rfl sleeps
  unrefused _ := ⟨fun _ mem => (nomatch mem), fun _ mem => (nomatch mem)⟩

theorem closed_of_step (h : MoveStep r m r') (other : m ≠ .shutdown) :
    r'.transport.closed = r.transport.closed := by
  cases h with
  | shutdown => exact absurd rfl other
  | _ => rfl

theorem isActive_of_closed {t : Transport} (isOpen : t.closed = false) : t.isActive = true := by
  simp [Transport.isActive, isOpen]

theorem orderly_run (undisturbed : Undisturbed r.transport) (orderly : Orderly r)
    (moves : List Move) : Orderly (run r moves) ∧ Undisturbed (run r moves).transport :=
  run_induction (P := fun _ r => Orderly r) undisturbed orderly
    (fun _ _ _ _ step before => step.orderly before) moves

theorem closed_run (undisturbed : Undisturbed r.transport) (isOpen : r.transport.closed = false)
    {moves : List Move} : .shutdown ∉ moves → (run r moves).transport.closed = false := by
  refine (run_induction (P := fun moves r => .shutdown ∉ moves → r.transport.closed = false)
    undisturbed (fun _ => isOpen) ?_ moves).1
  intro moves m r r' step before without
  rw [List.mem_append, not_or] at without
  rw [closed_of_step step fun same => without.2 (List.mem_singleton.mpr same.symm)]
  exact before without.1

theorem shutDown_run (undisturbed : Undisturbed s.transport) (orderly : Orderly s)
    (moves : List Move) : ShutDown s (run (s.move .shutdown) moves) := by
  have step : MoveStep s .shutdown (s.move .shutdown) := move_cases undisturbed .shutdown
  obtain ⟨⟨later, ended⟩, undisturbed'⟩ := run_induction (P := fun _ r => Orderly r ∧ Ended s r)
    (step.undisturbed undisturbed) ⟨step.orderly orderly, ended_shutdown s⟩
    (fun _ _ _ _ step before => ⟨step.orderly before.1, ended_of_step step before.1 before.2⟩) moves
  exact shutDown_of_ended undisturbed' later ended

/-- Whatever calls are made of a connected socket, and in whatever order they go on: none is told of
a shutdown before there is one, and from then on every call that begins is refused and every call
that waits ends.  What the calls take is the first that arrived, in order and each datagram once. -/
theorem shutdown_is_final (n : Network) {address peer : Endpoint} {t : Transport}
    (connected : Udp.connectFrom n address peer = .ok t) (moves : List Move) :
    Orderly (run (begun t) moves) ∧
      (.shutdown ∉ moves → (run (begun t) moves).transport.isActive = true ∧
        NoneRefused (run (begun t) moves).transport.returned (run (begun t) moves).replies) ∧
      ∀ before after, moves = before ++ .shutdown :: after →
        ShutDown (run (begun t) before) (run (begun t) moves) := by
  obtain ⟨bound, rfl⟩ := connectFrom_eq_ok connected
  have undisturbed : Undisturbed (begun { localAddress := bound, peer := peer }).transport :=
    ⟨rfl, rfl⟩
  have orderly := orderly_begun bound peer
  obtain ⟨later, -⟩ := orderly_run undisturbed orderly moves
  refine ⟨later, fun without => ?_, ?_⟩
  · have isOpen := closed_run undisturbed rfl without
    exact ⟨isActive_of_closed isOpen, later.unrefused isOpen⟩
  · rintro before after rfl
    obtain ⟨orderly', undisturbed'⟩ := orderly_run undisturbed orderly before
    rw [run_append]
    exact shutDown_run undisturbed' orderly' after

namespace Trial

def loopback : Network where
  bind address := .ok address
  connect _ _ := .ok ()

def home : Endpoint := ⟨.v4 .loopback, 40000, 0⟩

def peer : Endpoint := ⟨.v4 .loopback, 9000, 0⟩

/-- Two calls wait, one of them asleep, and a datagram arrives. -/
def before : List Move :=
  [.receive 2, .look 0 false, .receive 4, .send [7], .arrive [1, 2, 3, 4, 5]]

/-- The second call takes the datagram, though the socket is closed, and there is none left for the
first.  The send had begun, the calls that begin now are refused. -/
def after : List Move :=
  [.look 1 false, .transmit 0, .receive 9, .look 0 false, .send [8], .arrive [6]]

end Trial

theorem shutdown_is_final_loopback :
    ∃ t, Udp.connectFrom Trial.loopback Trial.home Trial.peer = .ok t ∧
      (run (begun t) Trial.before).transport.isActive = true ∧
      ShutDown (run (begun t) Trial.before)
        (run (begun t) (Trial.before ++ .shutdown :: Trial.after)) ∧
      (run (begun t) (Trial.before ++ .shutdown :: Trial.after)).transport.returned =
        [(1, .datagram [1, 2, 3, 4]), (2, .failed .shuttingDown), (0, .failed .shuttingDown)] ∧
      (run (begun t) (Trial.before ++ .shutdown :: Trial.after)).transport.sent = [[7]] :=
  ⟨{ localAddress := Trial.home, peer := Trial.peer }, rfl,
    ((shutdown_is_final Trial.loopback rfl Trial.before).2.1 (by decide)).1,
    (shutdown_is_final Trial.loopback rfl (Trial.before ++ .shutdown :: Trial.after)).2.2
      Trial.before Trial.after rfl, rfl, rfl⟩

end TunnelClient.SocketRun
