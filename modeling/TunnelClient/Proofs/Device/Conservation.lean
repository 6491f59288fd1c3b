import TunnelClient.Proofs.Calls.Account
import TunnelClient.Proofs.Device.Course

/-!
# Conservation of packets

A device conserves packets and strands nobody.  What was injected is queued or was read, what was
written is held or was taken, in order and each packet once; a caller waits only where there is
nothing for it, and callers are served in the order in which they came.  An armed failure meets the
first read or write that comes to it, and only that one.
-/

namespace TunnelClient

inductive Fate where
  | armed (reason : String)
  | failed (e : HostError)
  | passed

/-- Failures in their turn, with the one that is pending in the end.  A call that comes while a
failure is pending meets it, and no call fails otherwise.  Arming again while a failure is pending
gives it another reason. -/
inductive FailuresMet (failure : String → HostError) : List Fate → Option String → Prop
  | start : FailuresMet failure [] none
  | arm {fates : List Fate} {pending : Option String} (earlier : FailuresMet failure fates pending)
      (reason : String) : FailuresMet failure (fates ++ [.armed reason]) (some reason)
  | meet {fates : List Fate} {reason : String} (earlier : FailuresMet failure fates (some reason)) :
      FailuresMet failure (fates ++ [.failed (failure reason)]) none
  | pass {fates : List Fate} (earlier : FailuresMet failure fates none) :
      FailuresMet failure (fates ++ [.passed]) none

theorem FailuresMet.strike {failure : String → HostError} {fates : List Fate}
    {pending : Option String} (earlier : FailuresMet failure fates pending) (reason : String) :
    FailuresMet failure (fates ++ [.armed reason, .failed (failure reason)]) none := by
  have both := (earlier.arm reason).meet
  rwa [List.append_assoc] at both

namespace DeviceRun

/-! ## What the log tells -/

section Log

variable (log : List DeviceEvent)

def injected : List Packet :=
  log.filterMap fun
    | .injected p => some p
    | _ => none

def readOut : List (Nat × Packet) :=
  log.filterMap fun
    | .read caller (.packet p) => some (caller, p)
    | _ => none

def endedReads : List Nat :=
  log.filterMap fun
    | .read caller _ => some caller
    | _ => none

def readFates : List Fate :=
  log.filterMap fun
    | .readArmed reason => some (.armed reason)
    | .read _ (.failed e) => some (.failed e)
    | .read _ (.packet _) => some .passed
    | _ => none

def written : List Packet :=
  log.filterMap fun
    | .wrote p (.ok _) => some p
    | _ => none

def takenOut : List Packet :=
  log.flatMap fun
    | .took _ (.packet p) => [p]
    | .drained packets => packets
    | _ => []

def endedTakes : List Nat :=
  log.filterMap fun
    | .took caller (.packet _) => some caller
    | _ => none

def writeFates : List Fate :=
  log.filterMap fun
    | .writeArmed reason => some (.armed reason)
    | .wrote _ (.error e) => some (.failed e)
    | .wrote _ (.ok _) => some .passed
    | _ => none

end Log

def Move.capacity? : Move → Option Nat
  | .read capacity => some capacity
  | _ => none

def Move.isSeen : Move → Bool
  | .read _ | .nextWritten | .bringUp | .bringDown => false
  | .inject _ | .armRead _ | .armWrite _ | .write _ | .takeWritten => true

def move? : DeviceEvent → Option Move
  | .injected p => some (.inject p)
  | .readArmed reason => some (.armRead reason)
  | .writeArmed reason => some (.armWrite reason)
  | .wrote p _ => some (.write p)
  | .drained _ => some .takeWritten
  | .read .. | .took .. => none

structure Recorded (moves : List Move) (r : DeviceRun) : Prop where
  readers : r.readers.map Prod.snd = moves.filterMap Move.capacity?
  takers : r.takers.length = moves.countP (· == .nextWritten)
  log : r.log.filterMap move? = moves.filter Move.isSeen

/-- The packets read and then the queued ones are the injected ones.  Reads end in the order in
which they began, and none waits while a packet or a failure is pending. -/
structure Inlet.Orderly (i : Inlet) (readers : List (Nat × Nat)) (log : List DeviceEvent) :
    Prop where
  packets : HandedOver readers (injected log) i.queued (readOut log)
  failures : FailuresMet .tunReadFailed (readFates log) i.failure
  order : endedReads log ++ i.waiting = readers.map Prod.fst
  idle : i.waiting ≠ [] → i.queued = [] ∧ i.failure = none

/-- The packets taken and then the held ones are those written successfully.  Calls for a written
packet end in the order in which they began, and none waits while a packet is held. -/
structure Outlet.Orderly (o : Outlet) (takers : List Nat) (log : List DeviceEvent) : Prop where
  packets : takenOut log ++ o.held = written log
  failures : FailuresMet .tunWriteFailed (writeFates log) o.failure
  order : endedTakes log ++ o.waiting = takers
  idle : o.waiting ≠ [] → o.held = []

/-- Where a failure strikes it fails one call and changes nothing else: a read that comes to it,
the read that has waited longest when it is armed, or a write that comes to it. -/
structure FailsOne (r : DeviceRun) : Prop where
  comingRead : ∀ reason capacity, r.inlet.failure = some reason →
    (r.move (.read capacity)).log =
        r.log ++ [.read r.next (.failed (.tunReadFailed reason))] ∧
      (r.move (.read capacity)).inlet = { r.inlet with failure := none }
  waitingRead : ∀ reason caller waiting, r.inlet.waiting = caller :: waiting →
    (r.move (.armRead reason)).log =
        r.log ++ [.readArmed reason, .read caller (.failed (.tunReadFailed reason))] ∧
      (r.move (.armRead reason)).inlet = { r.inlet with waiting := waiting }
  comingWrite : ∀ reason p, r.outlet.failure = some reason →
    (r.move (.write p)).log = r.log ++ [.wrote p (.error (.tunWriteFailed reason))] ∧
      (r.move (.write p)).outlet = { r.outlet with failure := none }

/-- Taking what was written takes all that is held, at once and in order, and nothing else
changes. -/
structure TakesAll (r : DeviceRun) : Prop where
  log : (r.move .takeWritten).log = r.log ++ [.drained r.outlet.held]
  outlet : (r.move .takeWritten).outlet = { r.outlet with held := [] }
  inlet : (r.move .takeWritten).inlet = r.inlet

/-! ## One turn -/

section Turn

variable {readers readers' : List (Nat × Nat)} {takers takers' : List Nat} {next : Nat} {m : Move}
  {i i' : Inlet} {o o' : Outlet} {log events : List DeviceEvent}

theorem InletTurn.orderly (h : InletTurn readers next m i i' readers' events)
    (orderly : i.Orderly readers log) : i'.Orderly readers' (log ++ events) := by
  obtain ⟨packets, failures, order, idle⟩ := orderly
  -- A read that begins now changes nothing for those that were handed a packet before.
  have more (capacity : Nat) := packets.mono (List.subset_append_left readers [(next, capacity)])
  cases h with
  | queue =>
      refine ⟨?_, ?_, ?_, fun waits => absurd rfl waits⟩
      · simpa [injected, readOut] using packets.add _
      · simpa [readFates] using failures
      · simpa [endedReads] using order
  | hand known =>
      refine ⟨?_, ?_, ?_, fun _ => ⟨rfl, rfl⟩⟩
      · simpa [injected, readOut] using (packets.add _).take known
      · simpa [readFates] using failures.pass
      · simpa [endedReads] using order
  | arm =>
      refine ⟨?_, ?_, ?_, fun waits => absurd rfl waits⟩
      · simpa [injected, readOut] using packets
      · simpa [readFates] using failures.arm _
      · simpa [endedReads] using order
  | strike =>
      refine ⟨?_, ?_, ?_, fun _ => ⟨rfl, rfl⟩⟩
      · simpa [injected, readOut] using packets
      · simpa [readFates] using failures.strike _
      · simpa [endedReads] using order
  | @fail _ _ capacity =>
      refine ⟨?_, ?_, ?_, fun waits => absurd rfl waits⟩
      · simpa [injected, readOut] using more capacity
      · simpa [readFates] using failures.meet
      · simpa [endedReads] using order
  | @take _ _ capacity =>
      have known : (next, capacity) ∈ readers ++ [(next, capacity)] := by simp
      refine ⟨?_, ?_, ?_, fun waits => absurd rfl waits⟩
      · simpa [injected, readOut] using (more capacity).take known
      · simpa [readFates] using failures.pass
      · simpa [endedReads] using order
  | @wait _ capacity =>
      refine ⟨?_, ?_, ?_, fun _ => ⟨rfl, rfl⟩⟩
      · simpa [injected, readOut] using more capacity
      · simpa [readFates] using failures
      · simp [← order, endedReads]

theorem OutletTurn.orderly (h : OutletTurn takers next m o o' takers' events)
    (orderly : o.Orderly takers log) : o'.Orderly takers' (log ++ events) := by
  obtain ⟨packets, failures, order, idle⟩ := orderly
  cases h with
  | @keep _ p =>
      refine ⟨?_, ?_, ?_, fun waits => absurd rfl waits⟩
      · simpa [takenOut, written] using congrArg (· ++ [p]) packets
      · simpa [writeFates] using failures.pass
      · simpa [endedTakes] using order
  | pass =>
      refine ⟨?_, ?_, ?_, fun _ => rfl⟩
      · simpa [takenOut, written] using packets
      · simpa [writeFates] using failures.pass
      · simpa [endedTakes] using order
  | refuse =>
      refine ⟨?_, ?_, ?_, idle⟩
      · simpa [takenOut, written] using packets
      · simpa [writeFates] using failures.meet
      · simpa [endedTakes] using order
  | arm =>
      refine ⟨?_, ?_, ?_, idle⟩
      · simpa [takenOut, written] using packets
      · simpa [writeFates] using failures.arm _
      · simpa [endedTakes] using order
  | take =>
      refine ⟨?_, ?_, ?_, fun waits => absurd rfl waits⟩
      · simpa [takenOut, written] using packets
      · simpa [writeFates] using failures
      · simpa [endedTakes] using order
  | wait =>
      refine ⟨?_, ?_, ?_, fun _ => rfl⟩
      · simpa [takenOut, written] using packets
      · simpa [writeFates] using failures
      · simp [← order, endedTakes]
  | drain =>
      refine ⟨?_, ?_, ?_, fun _ => rfl⟩
      · simpa [takenOut, written] using packets
      · simpa [writeFates] using failures
      · simpa [endedTakes] using order

private theorem InletTurn.outlet_orderly (h : InletTurn readers next m i i' readers' events)
    (orderly : o.Orderly takers log) : o.Orderly takers (log ++ events) := by
  have taken : takenOut (log ++ events) = takenOut log := by cases h <;> simp [takenOut]
  have kept : written (log ++ events) = written log := by cases h <;> simp [written]
  have fates : writeFates (log ++ events) = writeFates log := by cases h <;> simp [writeFates]
  have ended : endedTakes (log ++ events) = endedTakes log := by cases h <;> simp [endedTakes]
  exact ⟨by rw [taken, kept, orderly.packets], by rw [fates]; exact orderly.failures,
    by rw [ended, orderly.order], orderly.idle⟩

private theorem OutletTurn.inlet_orderly (h : OutletTurn takers next m o o' takers' events)
    (orderly : i.Orderly readers log) : i.Orderly readers (log ++ events) := by
  have come : injected (log ++ events) = injected log := by cases h <;> simp [injected]
  have read : readOut (log ++ events) = readOut log := by cases h <;> simp [readOut]
  have fates : readFates (log ++ events) = readFates log := by cases h <;> simp [readFates]
  have ended : endedReads (log ++ events) = endedReads log := by cases h <;> simp [endedReads]
  exact ⟨by rw [come, read]; exact orderly.packets, by rw [fates]; exact orderly.failures,
    by rw [ended, orderly.order], orderly.idle⟩

theorem InletTurn.recorded (h : InletTurn readers next m i i' readers' events) :
    readers'.map Prod.snd = readers.map Prod.snd ++ [m].filterMap Move.capacity? ∧
      [m].countP (· == .nextWritten) = 0 ∧ events.filterMap move? = [m].filter Move.isSeen := by
  cases h <;> simp [Move.capacity?, Move.isSeen, move?, List.filter_cons, List.filterMap_cons]

theorem OutletTurn.recorded (h : OutletTurn takers next m o o' takers' events) :
    [m].filterMap Move.capacity? = [] ∧
      takers'.length = takers.length + [m].countP (· == .nextWritten) ∧
      events.filterMap move? = [m].filter Move.isSeen := by
  cases h <;> simp [Move.capacity?, Move.isSeen, move?, List.filter_cons, List.filterMap_cons]

theorem InletTurn.meet {capacity : Nat} {reason : String}
    (h : InletTurn readers next (.read capacity) i i' readers' events)
    (pending : i.failure = some reason) :
    events = [.read next (.failed (.tunReadFailed reason))] ∧
      i' = { i with failure := none } := by
  cases h with
  | fail =>
      cases pending
      exact ⟨rfl, rfl⟩
  | take | wait => cases pending

private theorem InletTurn.struck {reason : String} {caller : Nat} {waiting : List Nat}
    (h : InletTurn readers next (.armRead reason) i i' readers' events)
    (first : i.waiting = caller :: waiting) :
    events = [.readArmed reason, .read caller (.failed (.tunReadFailed reason))] ∧
      i' = { i with waiting := waiting } := by
  cases h with
  | arm => cases first
  | strike =>
      cases first
      exact ⟨rfl, rfl⟩

theorem OutletTurn.meet {p : Packet} {reason : String}
    (h : OutletTurn takers next (.write p) o o' takers' events)
    (pending : o.failure = some reason) :
    events = [.wrote p (.error (.tunWriteFailed reason))] ∧ o' = { o with failure := none } := by
  cases h with
  | refuse =>
      cases pending
      exact ⟨rfl, rfl⟩
  | keep | pass => cases pending

theorem OutletTurn.drained (h : OutletTurn takers next .takeWritten o o' takers' events) :
    events = [.drained o.held] ∧ o' = { o with held := [] } := by
  cases h with
  | drain => exact ⟨rfl, rfl⟩

end Turn

/-! ## One move -/

variable {r r' : DeviceRun} {m : Move}

private theorem failsOne_of_fit (fit : Fit r) : FailsOne r where
  comingRead reason capacity pending := by
    cases (move_cases fit (.read capacity)).1 with
    | inlet turn _ _ log =>
        obtain ⟨rfl, after⟩ := turn.meet pending
        exact ⟨log, after⟩
    | outlet turn => cases turn
    | idle upOrDown => cases upOrDown <;> contradiction
  waitingRead reason caller waiting first := by
    cases (move_cases fit (.armRead reason)).1 with
    | inlet turn _ _ log =>
        obtain ⟨rfl, after⟩ := turn.struck first
        exact ⟨log, after⟩
    | outlet turn => cases turn
    | idle upOrDown => cases upOrDown <;> contradiction
  comingWrite reason p pending := by
    cases (move_cases fit (.write p)).1 with
    | inlet turn => cases turn
    | outlet turn _ _ log =>
        obtain ⟨rfl, after⟩ := turn.meet pending
        exact ⟨log, after⟩
    | idle upOrDown => cases upOrDown <;> contradiction

private theorem takesAll_of_fit (fit : Fit r) : TakesAll r := by
  cases (move_cases fit .takeWritten).1 with
  | inlet turn => cases turn
  | outlet turn inlet readers log =>
      obtain ⟨rfl, after⟩ := turn.drained
      exact ⟨log, after, inlet⟩
  | idle upOrDown => cases upOrDown <;> contradiction

theorem Recorded.step {moves : List Move} (recorded : Recorded moves r) (h : MoveStep r r' m) :
    Recorded (moves ++ [m]) r' := by
  constructor
  · rw [List.filterMap_append, ← recorded.readers]
    cases h with
    | inlet turn => exact turn.recorded.1
    | outlet turn _ readers => rw [turn.recorded.1, readers, List.append_nil]
    | idle upOrDown _ _ readers => rcases upOrDown with rfl | rfl <;> simp [readers, Move.capacity?]
  · rw [List.countP_append, ← recorded.takers]
    cases h with
    | inlet turn _ takers => rw [turn.recorded.2.1, takers, Nat.add_zero]
    | outlet turn => exact turn.recorded.2.1
    | idle upOrDown _ _ _ takers => rcases upOrDown with rfl | rfl <;> simp [takers]
  · rw [List.filter_append, ← recorded.log]
    cases h with
    | inlet turn _ _ log => rw [log, List.filterMap_append, turn.recorded.2.2]
    | outlet turn _ _ log => rw [log, List.filterMap_append, turn.recorded.2.2]
    | idle upOrDown _ _ _ _ log => rcases upOrDown with rfl | rfl <;> simp [log, Move.isSeen]

structure InOrder (moves : List Move) (r : DeviceRun) : Prop where
  recorded : Recorded moves r
  inlet : r.inlet.Orderly r.readers r.log
  outlet : r.outlet.Orderly r.takers r.log

private theorem inOrder_begun (s : DeviceSettings) : InOrder [] (begun s) where
  recorded := ⟨rfl, rfl, rfl⟩
  inlet := ⟨.start [], .start, rfl, fun waits => absurd rfl waits⟩
  outlet := ⟨rfl, .start, rfl, fun waits => absurd rfl waits⟩

theorem InOrder.step {moves : List Move} (before : InOrder moves r) (h : MoveStep r r' m) :
    InOrder (moves ++ [m]) r' := by
  refine ⟨before.recorded.step h, ?_, ?_⟩
  · cases h with
    | inlet turn _ _ log =>
        rw [log]
        exact turn.orderly before.inlet
    | outlet turn inlet readers log =>
        rw [log, inlet, readers]
        exact turn.inlet_orderly before.inlet
    | idle _ inlet _ readers _ log =>
        rw [log, inlet, readers]
        exact before.inlet
  · cases h with
    | inlet turn outlet takers log =>
        rw [log, outlet, takers]
        exact turn.outlet_orderly before.outlet
    | outlet turn _ _ log =>
        rw [log]
        exact turn.orderly before.outlet
    | idle _ _ outlet _ takers log =>
        rw [log, outlet, takers]
        exact before.outlet

/-- Whatever is asked of a device, each side hands out what was put in, in order and whole but for
the reader's buffer, every pending failure fails one call, all that is held can be taken at once,
and nobody waits in vain. -/
theorem packets_conserved (s : DeviceSettings) (moves : List Move) :
    InOrder moves (run (begun s) moves) ∧ FailsOne (run (begun s) moves) ∧
      TakesAll (run (begun s) moves) ∧
      ((run (begun s) moves).readers.map Prod.fst ++ (run (begun s) moves).takers).Nodup := by
  obtain ⟨inOrder, fit⟩ := run_induction (fit_begun s) (inOrder_begun s)
    (fun _ _ _ _ _ step before => before.step step) moves
  exact ⟨inOrder, failsOne_of_fit fit, takesAll_of_fit fit, fit.numbered.distinct⟩

example (s : DeviceSettings) :
    (run (begun s) [.read 8, .read 2, .armRead "gone", .inject [1, 2, 3]]).log =
      [.readArmed "gone", .read 0 (.failed (.tunReadFailed "gone")), .injected [1, 2, 3],
        .read 1 (.packet [1, 2])] := rfl

end DeviceRun

end TunnelClient
