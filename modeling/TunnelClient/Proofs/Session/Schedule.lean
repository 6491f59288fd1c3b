import TunnelClient.Proofs.Relay.Rest
import TunnelClient.Proofs.Session.Exchange
import TunnelClient.Proofs.Session.Progress

/-!
# Schedules

A scheduler that lets everything run until it waits has steps enough for the input at hand:
what it settles is at rest.  And it only makes moves, so that what it comes to lies on a course.
-/

namespace TunnelClient

section Iteration

variable {σ : Type} {P : σ → Prop} {measure : σ → Nat}

/-- A step that uses up a measure is repeated until there is none. -/
theorem iterate_settles {step : σ → Option σ}
    (keeps : ∀ s s', P s → step s = some s' → P s' ∧ measure s' < measure s) {fuel : Nat} {s : σ}
    (holds : P s) (enough : measure s ≤ fuel) :
    P (iterate step fuel s) ∧ step (iterate step fuel s) = none := by
  induction fuel generalizing s with
  | zero =>
      refine ⟨holds, ?_⟩
      cases hstep : step s with
      | none => exact hstep
      | some s' =>
          obtain ⟨-, less⟩ := keeps s s' holds hstep
          omega
  | succ fuel ih =>
      rw [iterate]
      cases hstep : step s with
      | none => exact ⟨holds, hstep⟩
      | some s' =>
          obtain ⟨holds', less⟩ := keeps s s' holds hstep
          exact ih holds' (by omega)

theorem iterate_of_none {step : σ → Option σ} {s : σ} (still : step s = none) (fuel : Nat) :
    iterate step fuel s = s := by
  cases fuel with
  | zero => rfl
  | succ fuel => rw [iterate, still]

theorem firstStep_eq_none_iff {steps : List (σ → Option σ)} {s : σ} :
    firstStep steps s = none ↔ ∀ f ∈ steps, f s = none := by
  rw [firstStep, List.findSome?_eq_none_iff]

private theorem exists_of_firstStep {steps : List (σ → Option σ)} {s s' : σ}
    (h : firstStep steps s = some s') : ∃ f ∈ steps, f s = some s' :=
  List.exists_of_findSome?_eq_some h

private theorem mem_roleOrder (woken : List Role) (role : Role) : role ∈ roleOrder woken := by
  rw [roleOrder, List.mem_eraseDups, List.mem_append]
  right
  cases role <;> simp

end Iteration

namespace Runner

variable {σ : Type} {R : Runner σ} {P : σ → Prop}

private theorem advanceTo_keeps (feel : ∀ x s, P s → P (R.feel x s))
    (settle : ∀ woken s, P s → P (R.settle woken s)) (target stops : Nat) {s : σ} (h : P s) :
    P (R.advanceTo target stops s) := by
  induction stops generalizing s with
  | zero => exact feel _ s h
  | succ stops ih =>
      rw [advanceTo]
      split
      · split
        · exact ih (settle _ _ (feel _ s h))
        · exact feel _ s h
      · exact feel _ s h

private theorem take_keeps (feel : ∀ x s, P s → P (R.feel x s))
    (settle : ∀ woken s, P s → P (R.settle woken s)) (x : Stimulus) {b : Batch σ}
    (h : P b.state) : P (R.take b x).state := by
  unfold take
  split
  · exact h
  · cases x with
    | elapse milliseconds =>
        cases milliseconds with
        | zero => exact h
        | succ more => exact advanceTo_keeps feel settle _ _ (settle _ _ h)
    | _ => exact feel _ b.state h

theorem apply_keeps (feel : ∀ x s, P s → P (R.feel x s))
    (settle : ∀ woken s, P s → P (R.settle woken s)) (xs : List Stimulus) {s : σ} (h : P s) :
    ∃ woken s', P s' ∧ (R.apply xs s).1 = R.settle woken s' := by
  have batch : ∀ b : Batch σ, P b.state → P (xs.foldl R.take b).state := by
    induction xs with
    | nil => exact fun b h => h
    | cons x xs ih => exact fun b h => ih _ (take_keeps feel settle x h)
  exact ⟨_, _, batch { state := s } h, rfl⟩

end Runner

/-! ## Sessions -/

namespace Session

variable {c : Setup} {s s' : Session}

theorem work_le (s : Session) : s.work ≤ s.world.backlog := by
  have loop : ∀ w : Worker Loop, w.cost Loop.cost ≤ 3 := by
    intro w
    cases w with
    | unborn | reporting cause | finished => simp [Worker.cost]
    | running l => cases l <;> simp [Worker.cost, Loop.cost]
  have listening : s.listener.cost Listening.cost ≤ 3 := by
    cases s.listener with
    | unborn | reporting cause | finished => simp [Worker.cost]
    | running l => cases l <;> simp [Worker.cost, Listening.cost]
  have coordinating : s.coordinator.cost ≤ 12 := by
    cases s.coordinator with
    | joining t cause role deadline => cases role <;> simp [Coordinator.cost]
    | fresh | handshaking h | awaiting t | finished outcome => simp [Coordinator.cost]
  have up := loop s.uplink
  have down := loop s.downlink
  rw [work, World.backlog_eq]
  omega

/-- No task goes on by itself, and neither does the coordinator. -/
def Still (c : Setup) (s : Session) : Prop :=
  (∀ role, s.stepRole c role false = none) ∧ s.stepCoordinator c = none

theorem still_of_firstStep {woken : List Role}
    (h : firstStep ((roleOrder woken).map (fun role s => stepRole c role false s) ++
      [stepCoordinator c]) s = none) : Still c s := by
  rw [firstStep_eq_none_iff] at h
  constructor
  · intro role
    refine h (fun s => stepRole c role false s) ?_
    exact List.mem_append_left _ (List.mem_map_of_mem (mem_roleOrder woken role))
  · exact h (stepCoordinator c) (List.mem_append_right _ (List.mem_singleton_self _))

private theorem steps_of_firstStep {woken : List Role}
    (h : firstStep ((roleOrder woken).map (fun role s => stepRole c role false s) ++
      [stepCoordinator c]) s = some s') : Steps c s s' := by
  obtain ⟨f, mem, hf⟩ := exists_of_firstStep h
  rcases List.mem_append.mp mem with mem | mem
  · obtain ⟨role, -, rfl⟩ := List.mem_map.mp mem
    exact .inr ⟨role, false, hf⟩
  · rw [List.mem_singleton.mp mem] at hf
    exact .inl hf

/-- Settling takes a session further on its course, to where nothing goes on by itself. -/
theorem settle_course (c : Setup) (w : World) (trigger : Trigger) (moves : List Move)
    (woken : List Role) :
    (∃ more, settle c woken (course c w trigger moves) = course c w trigger (moves ++ more)) ∧
      Still c (settle c woken (course c w trigger moves)) := by
  have keeps : ∀ s s', (∃ more, s = course c w trigger (moves ++ more)) →
      firstStep ((roleOrder woken).map (fun role s => stepRole c role false s) ++
        [stepCoordinator c]) s = some s' →
      (∃ more, s' = course c w trigger (moves ++ more)) ∧ s'.work < s.work := by
    rintro s s' ⟨more, rfl⟩ step
    have steps := steps_of_firstStep step
    refine ⟨?_, work_steps (stage_course c w trigger (moves ++ more)) steps⟩
    obtain ⟨m, -, rfl⟩ := move_of_steps steps
    refine ⟨more ++ [m], ?_⟩
    rw [← List.append_assoc, course_append c w trigger (moves ++ more)]
    rfl
  obtain ⟨further, rest⟩ := iterate_settles keeps ⟨[], by rw [List.append_nil]⟩
    (work_le (course c w trigger moves))
  exact ⟨further, still_of_firstStep rest⟩

/-- Whatever stimuli are applied to a session, it comes to rest on its course. -/
theorem apply_course (c : Setup) (w : World) (trigger : Trigger) (xs : List Stimulus) :
    ∃ moves, ((runner c).apply xs (begun c w trigger)).1 = course c w trigger moves ∧
      Still c ((runner c).apply xs (begun c w trigger)).1 := by
  have feel : ∀ x s, (∃ moves, s = course c w trigger moves) →
      ∃ moves, (runner c).feel x s = course c w trigger moves := by
    rintro x s ⟨moves, rfl⟩
    refine ⟨moves ++ [.stimulus x], ?_⟩
    rw [course_append]
    rfl
  have settle : ∀ woken s, (∃ moves, s = course c w trigger moves) →
      ∃ moves, (runner c).settle woken s = course c w trigger moves := by
    rintro woken s ⟨moves, rfl⟩
    obtain ⟨⟨more, further⟩, -⟩ := settle_course c w trigger moves woken
    exact ⟨moves ++ more, further⟩
  obtain ⟨woken, s, ⟨moves, rfl⟩, settled⟩ :=
    Runner.apply_keeps feel settle xs (s := begun c w trigger) ⟨[], rfl⟩
  obtain ⟨⟨more, further⟩, still⟩ := settle_course c w trigger moves woken
  rw [settled]
  exact ⟨moves ++ more, further, still⟩

end Session

/-! ## A handshake on its own -/

namespace HandshakeRun

variable {c : Setup} {r r' : HandshakeRun}

theorem step_of_step (h : r.step c = some r') : r'.step c = none := by
  rw [step, Option.map_eq_some_iff] at h
  obtain ⟨⟨h', w⟩, hstep, rfl⟩ := h
  obtain ⟨outcome, rfl, -⟩ := Handshake.turn_of_step hstep
  rfl

theorem settle_eq (c : Setup) (r : HandshakeRun) : settle c r = r.move c .poll := by
  obtain ⟨fuel, backlog⟩ : ∃ fuel, r.world.backlog = fuel + 1 := ⟨_, rfl⟩
  rw [settle, backlog, iterate, move]
  cases hstep : r.step c with
  | none => rfl
  | some r' => exact iterate_of_none (step_of_step hstep) fuel

end HandshakeRun

/-! ## A relay on its own -/

namespace RelayRun

variable {c : Setup} {r : RelayRun}

theorem work_le (r : RelayRun) : r.work ≤ r.traffic.world.backlog := by
  have cost : ∀ l : Loop, l.cost ≤ 2 := fun l => by cases l <;> simp [Loop.cost]
  have up := cost r.uplink
  have down := cost r.downlink
  rw [work, World.backlog_eq]
  omega

def stepOf (c : Setup) (role : Role) (r : RelayRun) : Option RelayRun :=
  match role with
  | .uplink => r.stepUplink c false
  | .downlink => r.stepDownlink c false
  | .listener => none

private theorem steps_of_stepOf {role : Role} {r' : RelayRun} (h : stepOf c role r = some r') :
    Steps c r r' := by
  cases role with
  | uplink => exact ⟨false, .inl h⟩
  | downlink => exact ⟨false, .inr h⟩
  | listener => cases h

/-- Settling runs the loops of a relay until neither goes on by itself. -/
theorem settle_run (c : Setup) (woken : List Role) (r : RelayRun) :
    (∃ more, (∀ m ∈ more, Move.isLoop m = true) ∧ settle c woken r = run c r more) ∧
      (settle c woken r).stepUplink c false = none ∧
      (settle c woken r).stepDownlink c false = none := by
  have keeps : ∀ r₁ r₂, (∃ n, Path c r n r₁) →
      firstStep ((roleOrder woken).map (stepOf c)) r₁ = some r₂ →
      (∃ n, Path c r n r₂) ∧ r₂.work < r₁.work := by
    rintro r₁ r₂ ⟨n, path⟩ step
    obtain ⟨f, mem, hf⟩ := exists_of_firstStep step
    obtain ⟨role, -, rfl⟩ := List.mem_map.mp mem
    have steps := steps_of_stepOf hf
    exact ⟨⟨n + 1, path.next steps⟩, work_steps steps⟩
  obtain ⟨⟨n, path⟩, rest⟩ := iterate_settles keeps ⟨0, .here⟩ (work_le r)
  rw [firstStep_eq_none_iff] at rest
  have none : ∀ role, stepOf c role (settle c woken r) = none := fun role =>
    rest (stepOf c role) (List.mem_map_of_mem (mem_roleOrder woken role))
  exact ⟨path.run, none .uplink, none .downlink⟩

/-- Whatever stimuli are applied to a relay, its loops come to rest. -/
theorem apply_run (c : Setup) (r : RelayRun) (xs : List Stimulus) :
    ∃ moves, ((runner c).apply xs r).1 = run c r moves ∧
      ((runner c).apply xs r).1.stepUplink c false = none ∧
      ((runner c).apply xs r).1.stepDownlink c false = none := by
  have feel : ∀ x r', (∃ moves, r' = run c r moves) →
      ∃ moves, (runner c).feel x r' = run c r moves := by
    rintro x r' ⟨moves, rfl⟩
    refine ⟨moves ++ [.stimulus x], ?_⟩
    rw [run_append]
    rfl
  have settle : ∀ woken r', (∃ moves, r' = run c r moves) →
      ∃ moves, (runner c).settle woken r' = run c r moves := by
    rintro woken r' ⟨moves, rfl⟩
    obtain ⟨⟨more, -, further⟩, -⟩ := settle_run c woken (run c r moves)
    exact ⟨moves ++ more, further.trans (run_append ..).symm⟩
  obtain ⟨woken, r', ⟨moves, rfl⟩, settled⟩ := Runner.apply_keeps feel settle xs (s := r) ⟨[], rfl⟩
  obtain ⟨⟨more, -, further⟩, still⟩ := settle_run c woken (run c r moves)
  rw [settled]
  exact ⟨moves ++ more, further.trans (run_append ..).symm, still⟩

end RelayRun

end TunnelClient
