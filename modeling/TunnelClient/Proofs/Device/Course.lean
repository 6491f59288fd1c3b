import Mathlib.Data.List.Induction
import Mathlib.Data.List.Nodup
import TunnelClient.Device.Callers

/-!
# Courses of a device

Courses of a device: any sequence of calls on it, each run until nothing moves.  A move turns the
inlet, where packets of the host wait to be read, or the outlet, where written packets wait to be
taken, or neither.
-/

namespace TunnelClient

inductive DeviceEvent where
  | injected (p : Packet)
  | readArmed (reason : String)
  | writeArmed (reason : String)
  | read (caller : Nat) (result : CallResult)
  | took (caller : Nat) (result : CallResult)
  | wrote (p : Packet) (outcome : Except HostError Nat)
  | drained (packets : List Packet)

structure DeviceRun where
  calls : DeviceCalls
  readers : List (Nat × Nat) := []
  takers : List Nat := []
  log : List DeviceEvent := []

namespace DeviceRun

inductive Move where
  | inject (p : Packet)
  | armRead (reason : String)
  | armWrite (reason : String)
  | read (capacity : Nat)
  | nextWritten
  | write (p : Packet)
  | takeWritten
  | bringUp
  | bringDown
  deriving DecidableEq, Repr

def next (r : DeviceRun) : Nat := r.readers.length + r.takers.length

def ended (readers : List (Nat × Nat)) (call : Nat × CallResult) : DeviceEvent :=
  if call.1 ∈ readers.map Prod.fst then .read call.1 call.2 else .took call.1 call.2

def record (events : List DeviceEvent) (c : DeviceCalls) (r : DeviceRun) : DeviceRun :=
  { r with
    calls := { c with returned := [] }
    log := r.log ++ (events ++ c.returned.map (ended r.readers)) }

def beginRead (capacity : Nat) (r : DeviceRun) : DeviceRun :=
  { r with readers := r.readers ++ [(r.next, capacity)] }

def beginTake (r : DeviceRun) : DeviceRun := { r with takers := r.takers ++ [r.next] }

def move (r : DeviceRun) : Move → DeviceRun
  | .inject p => r.record [.injected p] (r.calls.inject p)
  | .armRead reason => r.record [.readArmed reason] (r.calls.armRead reason)
  | .armWrite reason => r.record [.writeArmed reason] (r.calls.armWrite reason)
  | .read capacity => (r.beginRead capacity).record [] (r.calls.read r.next capacity)
  | .nextWritten => r.beginTake.record [] (r.calls.nextWritten r.next)
  | .write p => r.record [.wrote p (r.calls.write p).1] (r.calls.write p).2
  | .takeWritten => r.record [.drained r.calls.takeWritten.1] r.calls.takeWritten.2
  | .bringUp => r.record [] r.calls.bringUp
  | .bringDown => r.record [] r.calls.bringDown

def run (r : DeviceRun) (moves : List Move) : DeviceRun := moves.foldl move r

def begun (s : DeviceSettings) : DeviceRun := { calls := { device := { settings := s } } }

/-! ## Inlet and outlet -/

structure Inlet where
  queued : List Packet
  failure : Option String
  waiting : List Nat

structure Outlet where
  held : List Packet
  failure : Option String
  waiting : List Nat

def inlet (r : DeviceRun) : Inlet :=
  ⟨r.calls.device.inbound, r.calls.device.readFailure, r.calls.readable.queue⟩

def outlet (r : DeviceRun) : Outlet :=
  ⟨r.calls.device.outbound, r.calls.device.writeFailure, r.calls.written.queue⟩

/-- How the inlet can turn, with the move that turns it and the events that show it.  A reader waits
only where nothing is queued and no failure is armed. -/
inductive InletTurn (readers : List (Nat × Nat)) (next : Nat) :
    Move → Inlet → Inlet → List (Nat × Nat) → List DeviceEvent → Prop
  | queue {queued : List Packet} {failure : Option String} {p : Packet} :
      InletTurn readers next (.inject p) ⟨queued, failure, []⟩ ⟨queued ++ [p], failure, []⟩ readers
        [.injected p]
  | hand {caller capacity : Nat} {waiting : List Nat} {p : Packet}
      (known : (caller, capacity) ∈ readers) :
      InletTurn readers next (.inject p) ⟨[], none, caller :: waiting⟩ ⟨[], none, waiting⟩ readers
        [.injected p, .read caller (.packet (p.take capacity))]
  | arm {queued : List Packet} {failure : Option String} {reason : String} :
      InletTurn readers next (.armRead reason) ⟨queued, failure, []⟩ ⟨queued, some reason, []⟩
        readers [.readArmed reason]
  | strike {caller : Nat} {waiting : List Nat} {reason : String} :
      InletTurn readers next (.armRead reason) ⟨[], none, caller :: waiting⟩ ⟨[], none, waiting⟩
        readers [.readArmed reason, .read caller (.failed (.tunReadFailed reason))]
  | fail {queued : List Packet} {reason : String} {capacity : Nat} :
      InletTurn readers next (.read capacity) ⟨queued, some reason, []⟩ ⟨queued, none, []⟩
        (readers ++ [(next, capacity)]) [.read next (.failed (.tunReadFailed reason))]
  | take {queued : List Packet} {p : Packet} {capacity : Nat} :
      InletTurn readers next (.read capacity) ⟨p :: queued, none, []⟩ ⟨queued, none, []⟩
        (readers ++ [(next, capacity)]) [.read next (.packet (p.take capacity))]
  | wait {waiting : List Nat} {capacity : Nat} :
      InletTurn readers next (.read capacity) ⟨[], none, waiting⟩ ⟨[], none, waiting ++ [next]⟩
        (readers ++ [(next, capacity)]) []

inductive OutletTurn (takers : List Nat) (next : Nat) :
    Move → Outlet → Outlet → List Nat → List DeviceEvent → Prop
  | keep {held : List Packet} {p : Packet} :
      OutletTurn takers next (.write p) ⟨held, none, []⟩ ⟨held ++ [p], none, []⟩ takers
        [.wrote p (.ok p.length)]
  | pass {caller : Nat} {waiting : List Nat} {p : Packet} :
      OutletTurn takers next (.write p) ⟨[], none, caller :: waiting⟩ ⟨[], none, waiting⟩ takers
        [.wrote p (.ok p.length), .took caller (.packet p)]
  | refuse {held : List Packet} {waiting : List Nat} {reason : String} {p : Packet} :
      OutletTurn takers next (.write p) ⟨held, some reason, waiting⟩ ⟨held, none, waiting⟩ takers
        [.wrote p (.error (.tunWriteFailed reason))]
  | arm {held : List Packet} {failure : Option String} {waiting : List Nat} {reason : String} :
      OutletTurn takers next (.armWrite reason) ⟨held, failure, waiting⟩
        ⟨held, some reason, waiting⟩ takers [.writeArmed reason]
  | take {held : List Packet} {failure : Option String} {p : Packet} :
      OutletTurn takers next .nextWritten ⟨p :: held, failure, []⟩ ⟨held, failure, []⟩
        (takers ++ [next]) [.took next (.packet p)]
  | wait {failure : Option String} {waiting : List Nat} :
      OutletTurn takers next .nextWritten ⟨[], failure, waiting⟩ ⟨[], failure, waiting ++ [next]⟩
        (takers ++ [next]) []
  | drain {held : List Packet} {failure : Option String} {waiting : List Nat} :
      OutletTurn takers next .takeWritten ⟨held, failure, waiting⟩ ⟨[], failure, waiting⟩ takers
        [.drained held]

inductive MoveStep (r r' : DeviceRun) (m : Move) : Prop
  | inlet {events : List DeviceEvent}
      (turn : InletTurn r.readers r.next m r.inlet r'.inlet r'.readers events)
      (outlet : r'.outlet = r.outlet) (takers : r'.takers = r.takers)
      (log : r'.log = r.log ++ events)
  | outlet {events : List DeviceEvent}
      (turn : OutletTurn r.takers r.next m r.outlet r'.outlet r'.takers events)
      (inlet : r'.inlet = r.inlet) (readers : r'.readers = r.readers)
      (log : r'.log = r.log ++ events)
  | idle (upOrDown : m = .bringUp ∨ m = .bringDown) (inlet : r'.inlet = r.inlet)
      (outlet : r'.outlet = r.outlet) (readers : r'.readers = r.readers)
      (takers : r'.takers = r.takers) (log : r'.log = r.log)

/-! ## Who waits -/

structure Inlet.Standing (i : Inlet) (readers : List (Nat × Nat)) : Prop where
  idle : i.waiting ≠ [] → i.queued = [] ∧ i.failure = none
  known : i.waiting ⊆ readers.map Prod.fst

structure Outlet.Standing (o : Outlet) (takers : List Nat) : Prop where
  idle : o.waiting ≠ [] → o.held = []
  known : o.waiting ⊆ takers

structure Numbered (readers : List (Nat × Nat)) (takers : List Nat) : Prop where
  fresh : ∀ caller ∈ readers.map Prod.fst ++ takers, caller < readers.length + takers.length
  distinct : (readers.map Prod.fst ++ takers).Nodup

theorem InletTurn.standing {readers readers' : List (Nat × Nat)} {next : Nat} {m : Move}
    {i i' : Inlet} {events : List DeviceEvent} (h : InletTurn readers next m i i' readers' events)
    (st : i.Standing readers) : i'.Standing readers' := by
  cases h with
  | queue | arm => exact ⟨fun h => absurd rfl h, List.nil_subset _⟩
  | hand | strike =>
      exact ⟨fun _ => ⟨rfl, rfl⟩, fun caller mem => st.known (List.mem_cons_of_mem _ mem)⟩
  | fail | take => exact ⟨fun h => absurd rfl h, List.nil_subset _⟩
  | wait =>
      refine ⟨fun _ => ⟨rfl, rfl⟩, ?_⟩
      rw [List.map_append]
      exact List.append_subset.mpr ⟨List.subset_append_of_subset_left _ st.known,
        List.subset_append_right _ _⟩

theorem OutletTurn.standing {takers takers' : List Nat} {next : Nat} {m : Move} {o o' : Outlet}
    {events : List DeviceEvent} (h : OutletTurn takers next m o o' takers' events)
    (st : o.Standing takers) : o'.Standing takers' := by
  cases h with
  | keep => exact ⟨fun h => absurd rfl h, List.nil_subset _⟩
  | pass => exact ⟨fun _ => rfl, fun caller mem => st.known (List.mem_cons_of_mem _ mem)⟩
  | refuse | arm => exact ⟨st.idle, st.known⟩
  | take => exact ⟨fun h => absurd rfl h, List.nil_subset _⟩
  | wait =>
      exact ⟨fun _ => rfl, List.append_subset.mpr ⟨List.subset_append_of_subset_left _ st.known,
        List.subset_append_right _ _⟩⟩
  | drain => exact ⟨fun _ => rfl, st.known⟩

private theorem Numbered.next_notMem {readers : List (Nat × Nat)} {takers : List Nat}
    (h : Numbered readers takers) :
    readers.length + takers.length ∉ readers.map Prod.fst ++ takers :=
  fun mem => Nat.lt_irrefl _ (h.fresh _ mem)

private theorem Numbered.notMem_readers {readers : List (Nat × Nat)} {takers : List Nat}
    (h : Numbered readers takers) {caller : Nat} (taker : caller ∈ takers) :
    caller ∉ readers.map Prod.fst :=
  fun reader => List.disjoint_of_nodup_append h.distinct reader taker

theorem Numbered.read {readers : List (Nat × Nat)} {takers : List Nat} (h : Numbered readers takers)
    (capacity : Nat) :
    Numbered (readers ++ [(readers.length + takers.length, capacity)]) takers := by
  -- The new reader comes in between the old readers and the takers.
  have middle : (readers ++ [(readers.length + takers.length, capacity)]).map Prod.fst ++ takers =
      readers.map Prod.fst ++ (readers.length + takers.length) :: takers := by
    rw [List.map_append, List.append_assoc]
    rfl
  constructor
  · rw [middle, List.length_append, List.length_singleton]
    intro caller mem
    rcases List.mem_cons.mp (List.perm_middle.mem_iff.mp mem) with rfl | mem
    · omega
    · have := h.fresh caller mem
      omega
  · rw [middle]
    exact List.nodup_middle.mpr (List.nodup_cons.mpr ⟨h.next_notMem, h.distinct⟩)

theorem Numbered.take {readers : List (Nat × Nat)} {takers : List Nat}
    (h : Numbered readers takers) :
    Numbered readers (takers ++ [readers.length + takers.length]) := by
  constructor
  · rw [← List.append_assoc, List.length_append, List.length_singleton]
    intro caller mem
    rcases List.mem_append.mp mem with mem | mem
    · have := h.fresh caller mem
      omega
    · rw [List.mem_singleton.mp mem]
      omega
  · rw [← List.append_assoc]
    exact h.distinct.append (List.nodup_singleton _)
      (List.disjoint_singleton.mpr h.next_notMem)

theorem InletTurn.numbered {readers readers' : List (Nat × Nat)} {takers : List Nat} {m : Move}
    {i i' : Inlet} {events : List DeviceEvent}
    (h : InletTurn readers (readers.length + takers.length) m i i' readers' events)
    (numbered : Numbered readers takers) : Numbered readers' takers := by
  cases h with
  | queue | hand | arm | strike => exact numbered
  | fail | take | wait => exact numbered.read _

theorem OutletTurn.numbered {readers : List (Nat × Nat)} {takers takers' : List Nat}
    {m : Move} {o o' : Outlet} {events : List DeviceEvent}
    (h : OutletTurn takers (readers.length + takers.length) m o o' takers' events)
    (numbered : Numbered readers takers) : Numbered readers takers' := by
  cases h with
  | keep | pass | refuse | arm | drain => exact numbered
  | take | wait => exact numbered.take

/-- What holds of a device between two moves: nobody waits in vain, every call that has ended is in
the log, and the device knows the buffers of its readers. -/
structure Fit (r : DeviceRun) : Prop where
  inlet : r.inlet.Standing r.readers
  outlet : r.outlet.Standing r.takers
  numbered : Numbered r.readers r.takers
  quiet : r.calls.returned = []
  sized : ∀ call ∈ r.readers, r.calls.capacities.lookup call.1 = some call.2

theorem fit_begun (s : DeviceSettings) : Fit (begun s) where
  inlet := ⟨fun h => absurd rfl h, List.nil_subset _⟩
  outlet := ⟨fun h => absurd rfl h, List.nil_subset _⟩
  numbered := ⟨fun _ h => (nomatch h), List.nodup_nil⟩
  quiet := rfl
  sized := fun _ h => nomatch h

end DeviceRun

/-! ## What each call does -/

namespace DeviceCalls

variable {c : DeviceCalls} {reason : String} {p : Packet} {rest : List Packet} {caller : Nat}
  {waiting : List Nat}

private theorem inject_of_nobody (nobody : c.readable.queue = []) (p : Packet) :
    c.inject p = { c with
      device := { c.device with inbound := c.device.inbound ++ [p] }
      readable := { c.readable with permit := true } } := by
  simp [inject, Device.inject, ringReadable, Bell.ring, nobody]

private theorem inject_of_waiting (first : c.readable.queue = caller :: waiting)
    (queued : c.device.inbound = []) (failure : c.device.readFailure = none) (p : Packet) :
    c.inject p = { c with
      device := { c.device with inbound := [], readFailure := none }
      readable := { c.readable with queue := waiting }
      returned :=
        c.returned ++ [(caller, .packet (p.take ((c.capacities.lookup caller).getD 0)))] } := by
  simp [inject, Device.inject, ringReadable, Bell.ring, first, tryRead, Device.poll?, queued,
    failure, finish]

private theorem armRead_of_nobody (nobody : c.readable.queue = []) (reason : String) :
    c.armRead reason = { c with
      device := { c.device with readFailure := some reason }
      readable := { c.readable with permit := true } } := by
  simp [armRead, Device.armRead, ringReadable, Bell.ring, nobody]

private theorem armRead_of_waiting (first : c.readable.queue = caller :: waiting)
    (reason : String) : c.armRead reason = { c with
      device := { c.device with readFailure := none }
      readable := { c.readable with queue := waiting }
      returned := c.returned ++ [(caller, .failed (.tunReadFailed reason))] } := by
  simp [armRead, Device.armRead, ringReadable, Bell.ring, first, tryRead, Device.poll?, finish]

private theorem read_of_failure (failure : c.device.readFailure = some reason)
    (caller capacity : Nat) : c.read caller capacity = { c with
      device := { c.device with readFailure := none }
      capacities := (caller, capacity) :: c.capacities
      returned := c.returned ++ [(caller, .failed (.tunReadFailed reason))] } := by
  simp [read, tryRead, Device.poll?, failure, finish]

private theorem read_of_packet (failure : c.device.readFailure = none)
    (queued : c.device.inbound = p :: rest) (caller capacity : Nat) :
    c.read caller capacity = { c with
      device := { c.device with inbound := rest }
      capacities := (caller, capacity) :: c.capacities
      returned := c.returned ++ [(caller, .packet (p.take capacity))] } := by
  simp [read, tryRead, Device.poll?, failure, queued, finish]

private theorem read_of_nothing (failure : c.device.readFailure = none)
    (queued : c.device.inbound = []) (caller capacity : Nat) :
    c.read caller capacity = { c with
      readable := c.readable.wait caller
      capacities := (caller, capacity) :: c.capacities } := by
  simp [read, tryRead, Device.poll?, failure, queued]

private theorem nextWritten_of_held (held : c.device.outbound = p :: rest) (caller : Nat) :
    c.nextWritten caller = { c with
      device := { c.device with outbound := rest }
      returned := c.returned ++ [(caller, .packet p)] } := by
  simp [nextWritten, tryTake, Device.takeOne?, held, finish]

private theorem nextWritten_of_nothing (held : c.device.outbound = []) (caller : Nat) :
    c.nextWritten caller = { c with written := c.written.wait caller } := by
  simp [nextWritten, tryTake, Device.takeOne?, held]

private theorem write_of_failure (failure : c.device.writeFailure = some reason) (p : Packet) :
    c.write p = (.error (.tunWriteFailed reason),
      { c with device := { c.device with writeFailure := none } }) := by
  simp [write, Device.write, failure]

private theorem write_of_nobody (failure : c.device.writeFailure = none)
    (nobody : c.written.queue = []) (p : Packet) :
    c.write p = (.ok p.length, { c with
      device := { c.device with outbound := c.device.outbound ++ [p] }
      written := { c.written with permit := true } }) := by
  simp [write, Device.write, failure, ringWritten, Bell.ring, nobody]

private theorem write_of_waiting (failure : c.device.writeFailure = none)
    (first : c.written.queue = caller :: waiting) (held : c.device.outbound = []) (p : Packet) :
    c.write p = (.ok p.length, { c with
      device := { c.device with outbound := [], writeFailure := none }
      written := { c.written with queue := waiting }
      returned := c.returned ++ [(caller, .packet p)] }) := by
  simp [write, Device.write, failure, ringWritten, Bell.ring, first, tryTake, Device.takeOne?,
    held, finish]

end DeviceCalls

namespace DeviceRun

/-! ## Moves -/

variable {r r' : DeviceRun} {m : Move}

private theorem step_of_inletTurn (fit : Fit r) {events : List DeviceEvent}
    (turn : InletTurn r.readers r.next m r.inlet r'.inlet r'.readers events)
    (outlet : r'.outlet = r.outlet) (takers : r'.takers = r.takers)
    (log : r'.log = r.log ++ events) (quiet : r'.calls.returned = [])
    (sized : ∀ call ∈ r'.readers, r'.calls.capacities.lookup call.1 = some call.2) :
    MoveStep r r' m ∧ Fit r' := by
  refine ⟨.inlet turn outlet takers log, turn.standing fit.inlet, ?_, ?_, quiet, sized⟩
  · rw [outlet, takers]
    exact fit.outlet
  · rw [takers]
    exact turn.numbered fit.numbered

private theorem step_of_outletTurn (fit : Fit r) {events : List DeviceEvent}
    (turn : OutletTurn r.takers r.next m r.outlet r'.outlet r'.takers events)
    (inlet : r'.inlet = r.inlet) (readers : r'.readers = r.readers)
    (log : r'.log = r.log ++ events) (quiet : r'.calls.returned = [])
    (capacities : r'.calls.capacities = r.calls.capacities) : MoveStep r r' m ∧ Fit r' := by
  refine ⟨.outlet turn inlet readers log, ?_, turn.standing fit.outlet, ?_, quiet, ?_⟩
  · rw [inlet, readers]
    exact fit.inlet
  · rw [readers]
    exact turn.numbered fit.numbered
  · rw [readers, capacities]
    exact fit.sized

theorem Fit.capacity (fit : Fit r) {caller : Nat} {waiting : List Nat}
    (first : r.calls.readable.queue = caller :: waiting) :
    ∃ capacity, (caller, capacity) ∈ r.readers ∧
      (r.calls.capacities.lookup caller).getD 0 = capacity ∧ caller ∈ r.readers.map Prod.fst := by
  have known : caller ∈ r.readers.map Prod.fst :=
    fit.inlet.known (show caller ∈ r.calls.readable.queue by rw [first]; exact List.mem_cons_self)
  obtain ⟨⟨_, capacity⟩, mem, rfl⟩ := List.mem_map.mp known
  exact ⟨capacity, mem, by rw [fit.sized _ mem]; rfl, known⟩

theorem Fit.starved (fit : Fit r) {caller : Nat} {waiting : List Nat}
    (first : r.calls.readable.queue = caller :: waiting) :
    r.calls.device.inbound = [] ∧ r.calls.device.readFailure = none :=
  fit.inlet.idle (show r.calls.readable.queue ≠ [] by rw [first]; exact List.cons_ne_nil _ _)

theorem Fit.nobody_of_failure (fit : Fit r) {reason : String}
    (failure : r.calls.device.readFailure = some reason) : r.calls.readable.queue = [] := by
  cases first : r.calls.readable.queue with
  | nil => rfl
  | cons caller waiting => exact absurd (failure.symm.trans (fit.starved first).2) (by simp)

theorem Fit.nobody_of_queued (fit : Fit r) {p : Packet} {rest : List Packet}
    (queued : r.calls.device.inbound = p :: rest) : r.calls.readable.queue = [] := by
  cases first : r.calls.readable.queue with
  | nil => rfl
  | cons caller waiting => exact absurd (queued.symm.trans (fit.starved first).1) (by simp)

theorem Fit.idle_taker (fit : Fit r) {caller : Nat} {waiting : List Nat}
    (first : r.calls.written.queue = caller :: waiting) :
    r.calls.device.outbound = [] ∧ caller ∈ r.takers :=
  ⟨fit.outlet.idle (show r.calls.written.queue ≠ [] by rw [first]; exact List.cons_ne_nil _ _),
    fit.outlet.known (show caller ∈ r.calls.written.queue by rw [first]; exact List.mem_cons_self)⟩

theorem Fit.nobody_of_held (fit : Fit r) {p : Packet} {rest : List Packet}
    (held : r.calls.device.outbound = p :: rest) : r.calls.written.queue = [] := by
  cases first : r.calls.written.queue with
  | nil => rfl
  | cons caller waiting => exact absurd (held.symm.trans (fit.idle_taker first).1) (by simp)

theorem Fit.next_notMem_readers (fit : Fit r) : r.next ∉ r.readers.map Prod.fst := fun mem =>
  fit.numbered.next_notMem (List.mem_append_left _ mem)

private theorem ended_of_reader {readers : List (Nat × Nat)} {caller : Nat}
    (known : caller ∈ readers.map Prod.fst) (result : CallResult) :
    ended readers (caller, result) = .read caller result :=
  if_pos known

private theorem ended_of_taker {readers : List (Nat × Nat)} {caller : Nat}
    (known : caller ∉ readers.map Prod.fst) (result : CallResult) :
    ended readers (caller, result) = .took caller result :=
  if_neg known

private theorem move_inject (fit : Fit r) (p : Packet) :
    MoveStep r (r.move (.inject p)) (.inject p) ∧ Fit (r.move (.inject p)) := by
  cases first : r.calls.readable.queue with
  | nil =>
      have eq := DeviceCalls.inject_of_nobody first p
      have turn : InletTurn r.readers r.next (.inject p) r.inlet (r.move (.inject p)).inlet
          r.readers [.injected p] := by
        simp only [move, record, inlet, eq, first]
        exact .queue
      refine step_of_inletTurn fit turn ?_ rfl ?_ rfl ?_
      · simp [move, record, outlet, eq]
      · simp [move, record, eq, fit.quiet]
      · simpa [move, record, eq] using fit.sized
  | cons caller waiting =>
      obtain ⟨capacity, known, size, reader⟩ := fit.capacity first
      obtain ⟨queued, failure⟩ := fit.starved first
      have eq := DeviceCalls.inject_of_waiting first queued failure p
      have turn : InletTurn r.readers r.next (.inject p) r.inlet (r.move (.inject p)).inlet
          r.readers [.injected p, .read caller (.packet (p.take capacity))] := by
        simp only [move, record, inlet, eq, first, queued, failure]
        exact .hand known
      refine step_of_inletTurn fit turn ?_ rfl ?_ rfl ?_
      · simp [move, record, outlet, eq]
      · simp [move, record, eq, fit.quiet, size, ended_of_reader reader]
      · simpa [move, record, eq] using fit.sized

private theorem move_armRead (fit : Fit r) (reason : String) :
    MoveStep r (r.move (.armRead reason)) (.armRead reason) ∧ Fit (r.move (.armRead reason)) := by
  cases first : r.calls.readable.queue with
  | nil =>
      have eq := DeviceCalls.armRead_of_nobody first reason
      have turn : InletTurn r.readers r.next (.armRead reason) r.inlet
          (r.move (.armRead reason)).inlet r.readers [.readArmed reason] := by
        simp only [move, record, inlet, eq, first]
        exact .arm
      refine step_of_inletTurn fit turn ?_ rfl ?_ rfl ?_
      · simp [move, record, outlet, eq]
      · simp [move, record, eq, fit.quiet]
      · simpa [move, record, eq] using fit.sized
  | cons caller waiting =>
      obtain ⟨-, -, -, reader⟩ := fit.capacity first
      obtain ⟨queued, failure⟩ := fit.starved first
      have eq := DeviceCalls.armRead_of_waiting first reason
      have turn : InletTurn r.readers r.next (.armRead reason) r.inlet
          (r.move (.armRead reason)).inlet r.readers
          [.readArmed reason, .read caller (.failed (.tunReadFailed reason))] := by
        simp only [move, record, inlet, eq, first, queued, failure]
        exact .strike
      refine step_of_inletTurn fit turn ?_ rfl ?_ rfl ?_
      · simp [move, record, outlet, eq]
      · simp [move, record, eq, fit.quiet, ended_of_reader reader]
      · simpa [move, record, eq] using fit.sized

private theorem move_armWrite (fit : Fit r) (reason : String) :
    MoveStep r (r.move (.armWrite reason)) (.armWrite reason) ∧
      Fit (r.move (.armWrite reason)) := by
  have turn : OutletTurn r.takers r.next (.armWrite reason) r.outlet
      (r.move (.armWrite reason)).outlet r.takers [.writeArmed reason] := .arm
  refine step_of_outletTurn fit turn rfl rfl ?_ rfl rfl
  simp [move, record, DeviceCalls.armWrite, fit.quiet]

theorem Fit.sized_beginRead (fit : Fit r) (capacity : Nat) :
    ∀ call ∈ (r.beginRead capacity).readers,
      ((r.next, capacity) :: r.calls.capacities).lookup call.1 = some call.2 := by
  intro call mem
  rcases List.mem_append.mp mem with mem | mem
  · have old : call.1 < r.next :=
      fit.numbered.fresh _ (List.mem_append_left _ (List.mem_map_of_mem mem))
    rw [List.lookup_cons, beq_eq_false_iff_ne.mpr (Nat.ne_of_lt old)]
    exact fit.sized call mem
  · rw [List.mem_singleton.mp mem, List.lookup_cons, beq_self_eq_true]

private theorem move_read (fit : Fit r) (capacity : Nat) :
    MoveStep r (r.move (.read capacity)) (.read capacity) ∧ Fit (r.move (.read capacity)) := by
  have newest : r.next ∈ (r.readers ++ [(r.next, capacity)]).map Prod.fst := by simp
  -- A pending failure comes first, and nobody waits while there is something to meet.
  cases failure : r.calls.device.readFailure with
  | some reason =>
      have nobody := fit.nobody_of_failure failure
      have eq := DeviceCalls.read_of_failure failure r.next capacity
      have turn : InletTurn r.readers r.next (.read capacity) r.inlet
          (r.move (.read capacity)).inlet (r.readers ++ [(r.next, capacity)])
          [.read r.next (.failed (.tunReadFailed reason))] := by
        simp only [move, record, inlet, eq, failure, nobody, beginRead]
        exact .fail
      refine step_of_inletTurn fit turn ?_ rfl ?_ rfl ?_
      · simp [move, record, outlet, eq, beginRead]
      · simp [move, record, eq, fit.quiet, beginRead, ended_of_reader newest]
      · simpa [move, record, eq] using fit.sized_beginRead capacity
  | none =>
      cases queued : r.calls.device.inbound with
      | cons p rest =>
          have nobody := fit.nobody_of_queued queued
          have eq := DeviceCalls.read_of_packet failure queued r.next capacity
          have turn : InletTurn r.readers r.next (.read capacity) r.inlet
              (r.move (.read capacity)).inlet (r.readers ++ [(r.next, capacity)])
              [.read r.next (.packet (p.take capacity))] := by
            simp only [move, record, inlet, eq, failure, queued, nobody, beginRead]
            exact .take
          refine step_of_inletTurn fit turn ?_ rfl ?_ rfl ?_
          · simp [move, record, outlet, eq, beginRead]
          · simp [move, record, eq, fit.quiet, beginRead, ended_of_reader newest]
          · simpa [move, record, eq] using fit.sized_beginRead capacity
      | nil =>
          have eq := DeviceCalls.read_of_nothing failure queued r.next capacity
          have turn : InletTurn r.readers r.next (.read capacity) r.inlet
              (r.move (.read capacity)).inlet (r.readers ++ [(r.next, capacity)]) [] := by
            simp only [move, record, inlet, eq, failure, queued, beginRead]
            exact .wait
          refine step_of_inletTurn fit turn ?_ rfl ?_ rfl ?_
          · simp [move, record, outlet, eq, beginRead]
          · simp [move, record, eq, fit.quiet, beginRead]
          · simpa [move, record, eq] using fit.sized_beginRead capacity

private theorem move_nextWritten (fit : Fit r) :
    MoveStep r (r.move .nextWritten) .nextWritten ∧ Fit (r.move .nextWritten) := by
  cases held : r.calls.device.outbound with
  | cons p rest =>
      have nobody := fit.nobody_of_held held
      have eq := DeviceCalls.nextWritten_of_held held r.next
      have turn : OutletTurn r.takers r.next .nextWritten r.outlet (r.move .nextWritten).outlet
          (r.takers ++ [r.next]) [.took r.next (.packet p)] := by
        simp only [move, record, outlet, eq, held, nobody, beginTake]
        exact .take
      refine step_of_outletTurn fit turn ?_ rfl ?_ rfl ?_
      · simp [move, record, inlet, eq, beginTake]
      · simp [move, record, eq, fit.quiet, beginTake, ended_of_taker fit.next_notMem_readers]
      · simp [move, record, eq]
  | nil =>
      have eq := DeviceCalls.nextWritten_of_nothing held r.next
      have turn : OutletTurn r.takers r.next .nextWritten r.outlet (r.move .nextWritten).outlet
          (r.takers ++ [r.next]) [] := by
        simp only [move, record, outlet, eq, held, beginTake]
        exact .wait
      refine step_of_outletTurn fit turn ?_ rfl ?_ rfl ?_
      · simp [move, record, inlet, eq, beginTake]
      · simp [move, record, eq, fit.quiet, beginTake]
      · simp [move, record, eq]

private theorem move_write (fit : Fit r) (p : Packet) :
    MoveStep r (r.move (.write p)) (.write p) ∧ Fit (r.move (.write p)) := by
  cases failure : r.calls.device.writeFailure with
  | some reason =>
      have eq := DeviceCalls.write_of_failure failure p
      have turn : OutletTurn r.takers r.next (.write p) r.outlet (r.move (.write p)).outlet r.takers
          [.wrote p (.error (.tunWriteFailed reason))] := by
        simp only [move, record, outlet, eq, failure]
        exact .refuse
      refine step_of_outletTurn fit turn ?_ rfl ?_ rfl ?_
      · simp [move, record, inlet, eq]
      · simp [move, record, eq, fit.quiet]
      · simp [move, record, eq]
  | none =>
      cases first : r.calls.written.queue with
      | nil =>
          have eq := DeviceCalls.write_of_nobody failure first p
          have turn : OutletTurn r.takers r.next (.write p) r.outlet (r.move (.write p)).outlet
              r.takers [.wrote p (.ok p.length)] := by
            simp only [move, record, outlet, eq, failure, first]
            exact .keep
          refine step_of_outletTurn fit turn ?_ rfl ?_ rfl ?_
          · simp [move, record, inlet, eq]
          · simp [move, record, eq, fit.quiet]
          · simp [move, record, eq]
      | cons caller waiting =>
          obtain ⟨held, taker⟩ := fit.idle_taker first
          have eq := DeviceCalls.write_of_waiting failure first held p
          have turn : OutletTurn r.takers r.next (.write p) r.outlet (r.move (.write p)).outlet
              r.takers [.wrote p (.ok p.length), .took caller (.packet p)] := by
            simp only [move, record, outlet, eq, failure, first, held]
            exact .pass
          refine step_of_outletTurn fit turn ?_ rfl ?_ rfl ?_
          · simp [move, record, inlet, eq]
          · simp [move, record, eq, fit.quiet, ended_of_taker (fit.numbered.notMem_readers taker)]
          · simp [move, record, eq]

private theorem move_takeWritten (fit : Fit r) :
    MoveStep r (r.move .takeWritten) .takeWritten ∧ Fit (r.move .takeWritten) := by
  have turn : OutletTurn r.takers r.next .takeWritten r.outlet (r.move .takeWritten).outlet r.takers
      [.drained r.calls.device.outbound] := .drain
  refine step_of_outletTurn fit turn rfl rfl ?_ rfl rfl
  simp [move, record, DeviceCalls.takeWritten, Device.takeAll, fit.quiet]

private theorem move_bringUp (fit : Fit r) :
    MoveStep r (r.move .bringUp) .bringUp ∧ Fit (r.move .bringUp) := by
  refine ⟨.idle (.inl rfl) rfl rfl rfl rfl ?_, fit.inlet, fit.outlet, fit.numbered, rfl, fit.sized⟩
  simp [move, record, DeviceCalls.bringUp, fit.quiet]

private theorem move_bringDown (fit : Fit r) :
    MoveStep r (r.move .bringDown) .bringDown ∧ Fit (r.move .bringDown) := by
  refine ⟨.idle (.inr rfl) rfl rfl rfl rfl ?_, fit.inlet, fit.outlet, fit.numbered, rfl, fit.sized⟩
  simp [move, record, DeviceCalls.bringDown, fit.quiet]

theorem move_cases (fit : Fit r) (m : Move) : MoveStep r (r.move m) m ∧ Fit (r.move m) := by
  cases m with
  | inject p => exact move_inject fit p
  | armRead reason => exact move_armRead fit reason
  | armWrite reason => exact move_armWrite fit reason
  | read capacity => exact move_read fit capacity
  | nextWritten => exact move_nextWritten fit
  | write p => exact move_write fit p
  | takeWritten => exact move_takeWritten fit
  | bringUp => exact move_bringUp fit
  | bringDown => exact move_bringDown fit

theorem run_append (r : DeviceRun) (first second : List Move) :
    run r (first ++ second) = run (run r first) second :=
  List.foldl_append ..

theorem run_induction {P : List Move → DeviceRun → Prop} (fit : Fit r) (start : P [] r)
    (step : ∀ moves m r r', Fit r → MoveStep r r' m → P moves r → P (moves ++ [m]) r')
    (moves : List Move) : P moves (run r moves) ∧ Fit (run r moves) := by
  induction moves using List.reverseRecOn with
  | nil => exact ⟨start, fit⟩
  | append_singleton moves m ih =>
      obtain ⟨holds, fit'⟩ := ih
      obtain ⟨hstep, fit''⟩ := move_cases fit' m
      rw [run_append]
      exact ⟨step moves m _ _ fit' hstep holds, fit''⟩

end DeviceRun

end TunnelClient
